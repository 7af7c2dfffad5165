import CatalogDelta.Proofs.Scan.Advance
import CatalogDelta.Proofs.Scan.Interleaving
import CatalogDelta.Proofs.Scan.Specification
import Mathlib.Order.Bounds.Basic

/-!
# The newest partition decides the watermark

A table with partition keys offers only the update times that are admitted, and its watermark is the
largest of them. What is admitted is closed upwards, so nothing is lost by that: the watermark
advances to the newest update time of all the partitions that are looked at, and it does so exactly
if that time lies in the window and after the prior watermark. The order of the partitions does not
matter.
-/

namespace CatalogDelta

namespace ScanRules

variable (rules : ScanRules) {prior : Option Int} {now : Int}

/-- The largest admitted update time advances a watermark exactly if it is the largest of all. -/
theorem advanced_max?_filter_iff {times : List Int} {newest : Int} :
    TableOutcome.advanced prior (times.filter (rules.admits · prior now)).max? = some newest ↔
      (newest ∈ times ∧ ∀ time ∈ times, time ≤ newest) ∧
        rules.lookback.admits newest now = true ∧ ∀ mark ∈ prior, mark < newest := by
  rw [TableOutcome.advanced_eq_some_iff, List.max?_eq_some_iff, List.mem_filter]
  constructor
  · rintro ⟨⟨⟨member, admitted⟩, largest⟩, above⟩
    refine ⟨⟨member, fun time given => ?_⟩, ((admits_eq_true_iff ..).mp admitted).1, above⟩
    by_contra larger
    have later := rules.admits_of_later (Int.not_le.mp larger) admitted
    exact larger (largest time (List.mem_filter.mpr ⟨given, later⟩))
  · rintro ⟨⟨member, largest⟩, inside, above⟩
    have admitted := (admits_eq_true_iff ..).mpr ⟨inside, rules.isNew_of_above above⟩
    exact ⟨⟨⟨member, admitted⟩, fun time given => largest time (List.mem_of_mem_filter given)⟩,
      above⟩

end ScanRules

namespace View

/-- The partitions of a table are listed, and the table carries no ignored identifier. Partitions
have a value for each key of their table, locations are texts if there are any, and nothing is wrong
with an update time that is asked for but that it is not found. -/
structure ListsPartitions (view : View) (identifiers : List String) (table : Table)
    (partitions : List Partition) : Prop where
  keyed : table.partitionKeys ≠ []
  listed : view.partitions table = .ok partitions
  fits : ∀ partition ∈ partitions, partition.values.length = table.partitionKeys.length
  placed : Placed table.location
  free : ¬ Carries identifiers table.location
  partitionsPlaced : ∀ partition ∈ partitions, Placed partition.location
  notFound : ∀ partition ∈ partitions, ¬ Carries identifiers partition.location → ∀ fault,
    view.updateTime (.partition partition) = .error fault →
      fault.kind.isA .updateTimeNotFound = true

/-- The known update times of the partitions that carry no ignored identifier. -/
def knownTimes (view : View) (identifiers : List String) (partitions : List Partition) : Set Int :=
  {time | ∃ partition ∈ partitions, ¬ Carries identifiers partition.location ∧
    view.updateTime (.partition partition) = .ok time}

namespace ListsPartitions

variable {view : View} {identifiers : List String} {table : Table} {partitions : List Partition}
  (lookback : LookbackPolicy) (strict : Bool)

theorem partitioned (lists : view.ListsPartitions identifiers table partitions) :
    table.isPartitioned = true := by
  simp [Table.isPartitioned, lists.keyed]

theorem passesOver_eq (lists : view.ListsPartitions identifiers table partitions) :
    (ScanRules.make lookback strict identifiers).passesOver table.location = false := by
  rw [ScanRules.passesOver_make lookback strict identifiers lists.placed]
  exact decide_eq_false lists.free

theorem listing_eq (lists : view.ListsPartitions identifiers table partitions) :
    view.listing table = .ok partitions := by
  have fitting : partitions.find? (fun partition =>
      partition.values.length ≠ table.partitionKeys.length) = none := by
    rw [List.find?_eq_none]
    intro partition member mismatched
    exact of_decide_eq_true mismatched (lists.fits partition member)
  simp only [listing, lists.listed, fitting]

theorem tableFault?_eq_none (lists : view.ListsPartitions identifiers table partitions) :
    view.tableFault? (.make lookback strict identifiers) table = none := by
  rw [tableFault?, ScanRules.locationFault?_make lookback strict identifiers lists.placed,
    Option.none_or, lists.passesOver_eq lookback strict]
  simp only [Bool.false_eq_true, ↓reduceIte, openTableFault?, lists.partitioned, lists.listing_eq]
  rw [List.findSome?_eq_none_iff]
  intro partition member
  have placed := lists.partitionsPlaced partition member
  rw [partitionFault?, ScanRules.locationFault?_make lookback strict identifiers placed,
    ScanRules.passesOver_make lookback strict identifiers placed, Option.none_or]
  by_cases carried : Carries identifiers partition.location
  · rw [decide_eq_true carried, if_pos rfl]
  · rw [decide_eq_false carried, if_neg Bool.false_ne_true, timeFault?]
    cases known : view.updateTime (.partition partition) with
    | ok time => rfl
    | error fault => simp only [lists.notFound partition member carried fault known, ↓reduceIte]

/-- What a scan sees of the table are the known update times. -/
theorem mem_times_iff (lists : view.ListsPartitions identifiers table partitions) {time : Int} :
    time ∈ (view.surveyTable (.make lookback strict identifiers) table).sightings.map
        (·.updateTime) ↔
      time ∈ view.knownTimes identifiers partitions := by
  simp only [surveyTable, lookedAt, entitiesOf, lists.passesOver_eq lookback strict,
    Bool.false_eq_true, ↓reduceIte, lists.partitioned, lists.listing_eq, Except.toOption,
    Option.getD_some, filterMap_partitions, knownTimes, Set.mem_ofPred_eq, List.mem_map,
    List.mem_flatMap]
  constructor
  · rintro ⟨sighting, ⟨partition, member, seen⟩, rfl⟩
    have placed := lists.partitionsPlaced partition member
    rw [ScanRules.passesOver_make lookback strict identifiers placed] at seen
    by_cases carried : Carries identifiers partition.location
    · rw [decide_eq_true carried, if_pos rfl] at seen
      exact absurd seen List.not_mem_nil
    · rw [decide_eq_false carried, if_neg Bool.false_ne_true, sighting?] at seen
      refine ⟨partition, member, carried, ?_⟩
      cases known : view.updateTime (.partition partition) with
      | ok time =>
        rw [known] at seen
        obtain rfl := List.mem_singleton.mp seen
        rfl
      | error fault =>
        rw [known] at seen
        exact absurd seen List.not_mem_nil
  · rintro ⟨partition, member, free, known⟩
    have placed := lists.partitionsPlaced partition member
    refine ⟨⟨.partition partition, time⟩, ⟨partition, member, ?_⟩, rfl⟩
    rw [ScanRules.passesOver_make lookback strict identifiers placed, decide_eq_false free,
      if_neg Bool.false_ne_true, sighting?, known]
    exact List.mem_singleton.mpr rfl

/-- The watermark of the table by what a scan sees of it. -/
theorem watermark_eq_some_iff (lists : view.ListsPartitions identifiers table partitions)
    (prior : Option Int) (now newest : Int) :
    (view.surveyTable (.make lookback strict identifiers) table).watermark
        (.make lookback strict identifiers) prior now = some newest ↔
      IsGreatest (view.knownTimes identifiers partitions) newest ∧
        lookback.admits newest now = true ∧ ∀ mark ∈ prior, mark < newest := by
  have partitioned : (view.surveyTable (.make lookback strict identifiers)
      table).table.isPartitioned = true := lists.partitioned
  have filtered : Sighting.latest? ((view.surveyTable (.make lookback strict identifiers)
      table).admitted (.make lookback strict identifiers) prior now) =
        (((view.surveyTable (.make lookback strict identifiers) table).sightings.map
          (·.updateTime)).filter
            ((ScanRules.make lookback strict identifiers).admits · prior now)).max? := by
    rw [Sighting.latest?, TableSurvey.admitted, List.filter_map]
    rfl
  simp only [TableSurvey.watermark, partitioned, ↓reduceIte, filtered,
    ScanRules.advanced_max?_filter_iff, lists.mem_times_iff lookback strict]
  rfl

/-- What is offered of some partitions, in any order, leaves the watermark of the table. -/
theorem advanced_of_perm (lists : view.ListsPartitions identifiers table partitions)
    (prior : Option Int) (now : Int) {order : List Partition} (same : order.Perm partitions) :
    TableOutcome.advanced prior (({} : RunningMax).offerAll (order.filterMap fun partition =>
        (view.partitionEvaluation (.make lookback strict identifiers) prior now
          partition).admitted)).value =
      (view.surveyTable (.make lookback strict identifiers) table).watermark
        (.make lookback strict identifiers) prior now := by
  have seen := lists.passesOver_eq lookback strict
  have outcome := ofEvaluations_eq_outcome seen lists.partitioned lists.listing_eq prior now
  rw [RunningMax.offerAll_perm _ (same.filterMap _)]
  have watermark := congrArg TableOutcome.watermark outcome
  rw [TableOutcome.ofEvaluations] at watermark
  rw [← List.map_prod_left_eq_zip, List.filterMap_map] at watermark
  exact watermark

end ListsPartitions

/-- **The newest partition decides.** A scan of the table comes to an outcome. It has a watermark
exactly if there is a newest known update time, this lies in the window, and it comes after the
prior watermark if there is one; the watermark is then that time. It is also what is left of the
admitted times when they are offered in any other order of the partitions. -/
theorem newest_partition_decides {σ : Type} {ready : σ → Prop} {services : ScanServices σ}
    {view : View} (shows : services.Shows ready view) {identifiers : List String} {table : Table}
    {partitions : List Partition} (lists : view.ListsPartitions identifiers table partitions)
    (lookback : LookbackPolicy) (strict : Bool) (prior : Option Int) (now : Int) (stage : Stage σ)
    (met : ready stage.outside) :
    ∃ outcome,
      (Act.runOn (Scan.scanTable services (.make lookback strict identifiers) now prior table)
        stage).1 = .ok outcome ∧
      (∀ newest, outcome.watermark = some newest ↔
        IsGreatest (view.knownTimes identifiers partitions) newest ∧
          lookback.admits newest now = true ∧ ∀ mark ∈ prior, mark < newest) ∧
      ∀ order : List Partition, order.Perm partitions →
        TableOutcome.advanced prior (({} : RunningMax).offerAll (order.filterMap fun partition =>
          (view.partitionEvaluation (.make lookback strict identifiers) prior now
            partition).admitted)).value = outcome.watermark := by
  have returned := (scanTable_gives shows (.make lookback strict identifiers) now prior table stage
    met).1
  rw [lists.tableFault?_eq_none lookback strict, Act.verdict_none] at returned
  exact ⟨_, returned, lists.watermark_eq_some_iff lookback strict prior now,
    fun order same => lists.advanced_of_perm lookback strict prior now same⟩

/-- The table by days of the shop. -/
def orders : Table := { dataset := ⟨"sales", "orders"⟩, partitionKeys := [.text "day"] }

theorem orders_listsPartitions :
    (Catalog.shop.view [] UpdateTimeSource.creationTime).ListsPartitions ["_tmp"] orders
      ((Catalog.shop.view [] UpdateTimeSource.creationTime).shownPartitions orders) where
  keyed := by decide
  listed := rfl
  fits := by decide +kernel
  placed := by decide
  free := by decide
  partitionsPlaced := by decide +kernel
  notFound := by
    have calm : ∀ partition ∈
        (Catalog.shop.view [] UpdateTimeSource.creationTime).shownPartitions orders,
          ((Catalog.shop.view [] UpdateTimeSource.creationTime).timeFault?
            (.partition partition)).isNone = true := by decide +kernel
    intro partition member _ fault failed
    have known := calm partition member
    unfold timeFault? at known
    rw [failed] at known
    by_contra other
    dsimp only at known
    rw [if_neg other] at known
    cases known

/-- Of the days of the shop the second is the newest that counts. It lies at the far edge of the
window and after the prior watermark, and so it is the watermark. -/
theorem newest_of_shop :
    ∃ outcome,
      (Act.runOn (Scan.scanTable (Site.shopScheduler UpdateTimeSource.creationTime).services
        (.make { lookback := some ⟨3000000⟩ } true ["_tmp"]) 5000 (some 1000) orders)
          { outside := Site.shop [] }).1 = .ok outcome ∧
      outcome.watermark = some 2000 := by
  obtain ⟨outcome, returned, decides, -⟩ :=
    newest_partition_decides (Site.shopScheduler_shows [] _) orders_listsPartitions
      { lookback := some ⟨3000000⟩ } true (some 1000) 5000 { outside := Site.shop [] }
      (Site.shop_open [])
  refine ⟨outcome, returned, (decides 2000).mpr ⟨⟨?_, ?_⟩, by decide, by decide⟩⟩
  · exact ⟨{ table := ⟨"sales", "orders"⟩, values := ["tue"], createTime := .int 2 },
      List.mem_of_getElem? (i := 1) rfl, by decide, rfl⟩
  · have known : ∀ partition ∈
        (Catalog.shop.view [] UpdateTimeSource.creationTime).shownPartitions orders,
          ¬ Carries ["_tmp"] partition.location →
            ∀ time ∈ (UpdateTimeSource.creationTime (.partition partition)).toOption,
              time ≤ 2000 := by decide +kernel
    rintro time ⟨partition, member, free, dated⟩
    apply known partition member free
    rw [show UpdateTimeSource.creationTime (.partition partition) = .ok time from dated]
    rfl

end View
end CatalogDelta
