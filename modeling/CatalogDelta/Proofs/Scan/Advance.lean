import CatalogDelta.Proofs.Scan.Share

/-!
# Which datasets advance

A dataset is meant to have a watermark in a result only if it advances: some work is for it, and the
latest update of that work comes after its prior watermark. Main statement: this is so for tables
with partitions, but a table as a whole also has a watermark if it is emitted at its prior one.
-/

namespace CatalogDelta

open Act OrderedMap

/-- The datasets of the result that have a watermark are those that advance, and the watermark is
the latest update time of their work. -/
def ScanResult.MarksAdvances (result : ScanResult) (priors : Watermarks) : Prop :=
  ∀ dataset mark, get? dataset result.watermarks = some mark ↔
    result.latestFor dataset = some mark ∧ ∀ prior ∈ get? dataset priors, prior < mark

theorem ScanResult.exists_work_of_latestFor {result : ScanResult} {dataset : Dataset} {mark : Int}
    (latest : result.latestFor dataset = some mark) :
    ∃ work ∈ result.work, work.dataset = dataset ∧ work.updateTime = mark := by
  obtain ⟨work, inside, same⟩ := List.mem_map.mp (List.max?_mem latest)
  obtain ⟨member, carried⟩ := List.mem_filter.mp inside
  exact ⟨work, member, of_decide_eq_true carried, same⟩

/-- Only a candidate above the prior watermark counts. -/
theorem TableOutcome.advanced_eq_some_iff {prior candidate : Option Int} {mark : Int} :
    advanced prior candidate = some mark ↔
      candidate = some mark ∧ ∀ before ∈ prior, before < mark := by
  cases candidate with
  | none => simp [advanced]
  | some latest =>
    cases prior with
    | none => simp [advanced]
    | some before =>
      simp only [advanced, Option.ite_none_right_eq_some, Option.some.injEq, Option.mem_def,
        forall_eq']
      constructor
      · rintro ⟨above, rfl⟩
        exact ⟨rfl, above⟩
      · rintro ⟨rfl, above⟩
        exact ⟨above, rfl⟩

/-- Partitions raise a watermark only above the prior one; a table as a whole is under no such
rule. -/
theorem TableSurvey.watermark_eq_some_iff {survey : TableSurvey} {rules : ScanRules}
    {prior : Option Int} {now mark : Int} :
    survey.watermark rules prior now = some mark ↔
      Sighting.latest? (survey.admitted rules prior now) = some mark ∧
        ((∀ before ∈ prior, before < mark) ∨ survey.table.isPartitioned = false) := by
  unfold watermark
  cases survey.table.isPartitioned with
  | true => simp [TableOutcome.advanced_eq_some_iff]
  | false => simp

namespace View

variable {view : View} {rules : ScanRules} {selector : Selector} {priors : Watermarks} {now : Int}

/-- Work is for a partition exactly if its table has partition keys. -/
theorem partition_eq_none_iff {work : Work}
    (member : work ∈ ((view.survey rules selector).result rules priors now).work) :
    work.partition = none ↔ work.table.isPartitioned = false := by
  rw [work_result] at member
  obtain ⟨table, _, inside⟩ := List.mem_flatMap.mp member
  obtain ⟨sighting, admitted, rfl⟩ := List.mem_map.mp inside
  have listed := entity_mem_entitiesOf (List.mem_of_mem_filter admitted)
  cases partitioned : table.isPartitioned with
  | false => simp [Sighting.work, entity_eq_table partitioned listed, Entity.partition?,
      partitioned]
  | true =>
    obtain ⟨partition, itself⟩ := entity_eq_partition partitioned listed
    simp [Sighting.work, itself, Entity.partition?, partitioned]

theorem dataset_of_mem_work {work : Work}
    (member : work ∈ ((view.survey rules selector).result rules priors now).work) :
    work.table ∈ view.chosen selector ∧ work.table.dataset = work.dataset := by
  rw [work_result] at member
  obtain ⟨table, chosen, inside⟩ := List.mem_flatMap.mp member
  obtain ⟨sighting, _, rfl⟩ := List.mem_map.mp inside
  exact ⟨chosen, rfl⟩

/-- The work for a dataset is for the one table chosen of it. -/
theorem table_eq_of_mem_work (once : view.ListsOnce) {table : Table}
    (chosen : table ∈ view.chosen selector) {work : Work}
    (member : work ∈ ((view.survey rules selector).result rules priors now).work)
    (same : work.dataset = table.dataset) : work.table = table := by
  have listed := (view.chosen_sublist_listed selector).subset
  obtain ⟨itsChosen, its⟩ := dataset_of_mem_work member
  exact once.eq_of_dataset (listed chosen) (listed itsChosen) (its.trans same)

/-- The watermarks of a result, dataset by dataset. -/
theorem get?_watermarks_eq_some_iff (once : view.ListsOnce) (dataset : Dataset) (mark : Int) :
    get? dataset ((view.survey rules selector).result rules priors now).watermarks = some mark ↔
      ((view.survey rules selector).result rules priors now).latestFor dataset = some mark ∧
        ((∀ prior ∈ get? dataset priors, prior < mark) ∨
          ∃ work ∈ ((view.survey rules selector).result rules priors now).work,
            work.dataset = dataset ∧ work.partition = none) := by
  have distinct := once.survey rules selector
  by_cases scanned : dataset ∈ (view.chosen selector).map (·.dataset)
  · obtain ⟨table, chosen, rfl⟩ := List.mem_map.mp scanned
    have member : view.surveyTable rules table ∈ (view.survey rules selector).tables :=
      List.mem_map_of_mem chosen
    have raised := Survey.get?_result_of_mem rules priors now distinct member
    have latest := Survey.latestFor_result_of_mem rules priors now distinct member
    rw [show table.dataset = (view.surveyTable rules table).table.dataset from rfl, raised,
      TableSurvey.watermark_eq_some_iff, ← latest]
    refine and_congr_right fun found => or_congr_right ⟨fun whole => ?_, ?_⟩
    · obtain ⟨work, given, same, _⟩ := ScanResult.exists_work_of_latestFor found
      have itself := table_eq_of_mem_work once chosen given same
      exact ⟨work, given, same, (partition_eq_none_iff given).mpr (itself.symm ▸ whole)⟩
    · rintro ⟨work, given, same, whole⟩
      have itself := table_eq_of_mem_work once chosen given same
      exact itself ▸ (partition_eq_none_iff given).mp whole
  · rw [← view.survey_datasets rules selector] at scanned
    rw [Survey.get?_result_of_notMem rules priors now scanned,
      Survey.latestFor_result_of_notMem rules priors now scanned]
    simp

/-- The work for a table as a whole has the update time of the table. -/
theorem updateTime_of_mem_work {work : Work}
    (member : work ∈ ((view.survey rules selector).result rules priors now).work)
    (whole : work.partition = none) :
    view.updateTime (.table work.table) = .ok work.updateTime := by
  rw [partition_eq_none_iff member] at whole
  rw [work_result] at member
  obtain ⟨table, _, inside⟩ := List.mem_flatMap.mp member
  obtain ⟨sighting, admitted, rfl⟩ := List.mem_map.mp inside
  have seen := List.mem_of_mem_filter admitted
  have itself := entity_eq_table whole (entity_mem_entitiesOf seen)
  obtain ⟨entity, _, shown⟩ := List.mem_filterMap.mp seen
  unfold sighting? at shown
  split at shown
  · rename_i updateTime known
    cases shown
    exact itself ▸ known
  · contradiction

/-- All the work for the dataset of a table as a whole has one update time. -/
theorem latestFor_of_whole (once : view.ListsOnce) {work : Work}
    (member : work ∈ ((view.survey rules selector).result rules priors now).work)
    (whole : work.partition = none) {latest : Int}
    (found : ((view.survey rules selector).result rules priors now).latestFor work.dataset =
      some latest) : work.updateTime = latest := by
  obtain ⟨last, given, same, rfl⟩ := ScanResult.exists_work_of_latestFor found
  obtain ⟨chosen, its⟩ := dataset_of_mem_work member
  have itself : last.table = work.table :=
    table_eq_of_mem_work once chosen given (same.trans its.symm)
  have lastWhole : last.partition = none := by
    rw [partition_eq_none_iff given, itself]
    exact (partition_eq_none_iff member).mp whole
  have known := updateTime_of_mem_work given lastWhole
  rw [itself, updateTime_of_mem_work member whole] at known
  exact Except.ok.inj known

/-- The datasets with a watermark are those that advance, unless a table as a whole is emitted at
its prior watermark. -/
theorem result_marksAdvances_iff (once : view.ListsOnce) :
    ((view.survey rules selector).result rules priors now).MarksAdvances priors ↔
      ∀ work ∈ ((view.survey rules selector).result rules priors now).work,
        work.partition = none → get? work.dataset priors ≠ some work.updateTime := by
  constructor
  · intro advances work member whole tied
    obtain ⟨latest, found⟩ : ∃ latest,
        ((view.survey rules selector).result rules priors now).latestFor work.dataset =
          some latest := by
      refine Option.isSome_iff_exists.mp (List.isSome_max?_of_mem (a := work.updateTime) ?_)
      exact List.mem_map_of_mem (List.mem_filter.mpr ⟨member, decide_eq_true rfl⟩)
    have marked := (get?_watermarks_eq_some_iff once work.dataset latest).mpr
      ⟨found, .inr ⟨work, member, rfl, whole⟩⟩
    have above := ((advances work.dataset latest).mp marked).2 work.updateTime tied
    rw [latestFor_of_whole once member whole found] at above
    exact Int.lt_irrefl _ above
  · intro untied dataset mark
    rw [get?_watermarks_eq_some_iff once]
    refine and_congr_right fun found => ⟨?_, .inl⟩
    rintro (above | ⟨work, member, rfl, whole⟩)
    · exact above
    · intro prior before
      have new := Survey.isNew_of_mem_work member
      rw [Option.mem_def.mp before] at new
      have different := untied work member whole
      rw [latestFor_of_whole once member whole found, Option.mem_def.mp before] at different
      have below := ScanRules.le_of_isNew new
      rw [latestFor_of_whole once member whole found] at below
      exact Int.lt_iff_le_and_ne.mpr ⟨below, fun same => different (congrArg some same)⟩

end View

/-- **Which datasets have a watermark.** Let a scan return on a catalog that lists each dataset at
most once. The watermark of a dataset is the latest update of its work; it is left out only if it
does not come after the prior watermark and the work is for partitions. So the datasets with a
watermark are those that advance unless a table as a whole is emitted at its prior watermark, and
always if the scan is strict. -/
theorem marksAdvances_iff {σ : Type} {scheduler : Scheduler σ} {ready : σ → Prop} {view : View}
    (shows : scheduler.services.Shows ready view) (once : view.ListsOnce) {selector : Selector}
    {priors : Watermarks} {now : Int} (stage : Stage σ) (met : ready stage.outside)
    {result : ScanResult}
    (returned : (runOn (Scan.run scheduler selector priors now) stage).1 = .ok result) :
    (∀ dataset mark, get? dataset result.watermarks = some mark ↔
      result.latestFor dataset = some mark ∧
        ((∀ prior ∈ get? dataset priors, prior < mark) ∨
          ∃ work ∈ result.work, work.dataset = dataset ∧ work.partition = none)) ∧
    (result.MarksAdvances priors ↔ ∀ work ∈ result.work, work.partition = none →
      get? work.dataset priors ≠ some work.updateTime) ∧
    (scheduler.rules.strict = true → result.MarksAdvances priors) := by
  rw [(View.run_gives shows selector priors now stage met).1, verdict_eq_ok_iff] at returned
  obtain ⟨_, rfl⟩ := returned
  refine ⟨View.get?_watermarks_eq_some_iff once, View.result_marksAdvances_iff once, ?_⟩
  intro strict
  refine (View.result_marksAdvances_iff once).mpr fun work member _ tied => ?_
  have new := Survey.isNew_of_mem_work member
  rw [tied, ScanRules.isNew_some_of_strict strict] at new
  exact Int.lt_irrefl _ new

/-- In the shop the orders advance from one day to the next, and the customers, who are up to date,
have no watermark in the result of a strict scan. -/
theorem advances_of_shop :
    ∃ result,
      (runOn (Scan.run (Site.shopScheduler UpdateTimeSource.creationTime) .everything
        [(⟨"sales", "orders"⟩, 1000), (⟨"sales", "customers"⟩, 3000)] 5000)
          { outside := Site.shop [] }).1 = .ok result ∧
      result.watermarks = [(⟨"sales", "orders"⟩, 2000)] ∧
      result.MarksAdvances [(⟨"sales", "orders"⟩, 1000), (⟨"sales", "customers"⟩, 3000)] := by
  have shows := Site.shopScheduler_shows [] UpdateTimeSource.creationTime
  have unfailing : (Catalog.shop.view [] UpdateTimeSource.creationTime).fault?
      (Site.shopScheduler UpdateTimeSource.creationTime).rules .everything = none :=
    Option.isNone_iff_eq_none.mp (by decide +kernel)
  have returned := View.run_returns shows unfailing
    [(⟨"sales", "orders"⟩, 1000), (⟨"sales", "customers"⟩, 3000)] 5000
    { outside := Site.shop [] } (Site.shop_open [])
  refine ⟨_, returned, by decide +kernel, ?_⟩
  exact (marksAdvances_iff shows (Site.shop_listsOnce _) { outside := Site.shop [] }
    (Site.shop_open []) returned).2.2 rfl

/-- A scan that is not strict emits the customers at their watermark, and then they have a watermark
although they do not advance. -/
theorem lenient_scan_marks_tie :
    ∃ result,
      (runOn (Scan.run { Site.shopScheduler UpdateTimeSource.creationTime with
          rules := .make {} false ["_tmp"] } .everything
        [(⟨"sales", "customers"⟩, 3000)] 5000) { outside := Site.shop [] }).1 = .ok result ∧
      result.latestFor ⟨"sales", "customers"⟩ = some 3000 ∧
      get? ⟨"sales", "customers"⟩ result.watermarks = some 3000 ∧
      ¬ result.MarksAdvances [(⟨"sales", "customers"⟩, 3000)] := by
  have shows : ({ Site.shopScheduler UpdateTimeSource.creationTime with
      rules := .make {} false ["_tmp"] } : Scheduler Site).services.Shows (Site.OpenShop [])
        (Catalog.shop.view [] UpdateTimeSource.creationTime) :=
    Site.shopScheduler_shows [] UpdateTimeSource.creationTime
  have unfailing : (Catalog.shop.view [] UpdateTimeSource.creationTime).fault?
      (.make {} false ["_tmp"]) .everything = none :=
    Option.isNone_iff_eq_none.mp (by decide +kernel)
  have returned := View.run_returns shows unfailing [(⟨"sales", "customers"⟩, 3000)] 5000
    { outside := Site.shop [] } (Site.shop_open [])
  have marked : get? ⟨"sales", "customers"⟩
      (((Catalog.shop.view [] UpdateTimeSource.creationTime).survey (.make {} false ["_tmp"])
        .everything).result (.make {} false ["_tmp"]) [(⟨"sales", "customers"⟩, 3000)]
          5000).watermarks = some 3000 := by decide +kernel
  refine ⟨_, returned, by decide +kernel, marked, fun advances => ?_⟩
  exact Int.lt_irrefl _ (((advances _ _).mp marked).2 3000 rfl)

end CatalogDelta
