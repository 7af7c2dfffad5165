import CatalogDelta.Proofs.Scan.Calls
import CatalogDelta.Proofs.Scan.Specification

/-!
# What is ignored is not there

Let some views be the same, but that one of them lacks what the other one holds at ignored
locations: tables, and partitions of the tables that are left. A scan of the fuller view that passes
over these locations ends as a scan of the other view that passes over nothing: with the same fault,
or with the same work, watermarks and failures. And it never asks about what it passes over.
-/

namespace CatalogDelta

open Act

/-- A search skips what is not kept, if nothing is found there. -/
theorem findSome?_filter {α β : Type} {keep : α → Bool} {find look : α → Option β} {items : List α}
    (kept : ∀ item ∈ items, keep item = true → find item = look item)
    (dropped : ∀ item ∈ items, keep item = false → find item = none) :
    items.findSome? find = (items.filter keep).findSome? look := by
  rw [← List.head?_filterMap, ← List.head?_filterMap, List.filterMap_filter]
  refine congrArg List.head? (List.filterMap_congr fun item member => ?_)
  cases keeps : keep item with
  | true => rw [if_pos rfl, kept item member keeps]
  | false => rw [if_neg Bool.false_ne_true, dropped item member keeps]

section Rules

variable (lookback : LookbackPolicy) (strict : Bool) {identifiers : List String} {location : Data}

/-- Rules without identifiers pass over nothing. -/
theorem ScanRules.ignores_make_nil (location : Data) :
    (make lookback strict []).ignores location = .ok false := by
  unfold ignores
  split <;> rfl

theorem ScanRules.passesOver_make_nil (location : Data) :
    (make lookback strict []).passesOver location = false := by
  rw [passesOver, ignores_make_nil]
  rfl

theorem ScanRules.locationFault?_make_nil (location : Data) :
    (make lookback strict []).locationFault? location = none := by
  rw [locationFault?, ignores_make_nil]

/-- What rules do not pass over carries none of their identifiers. -/
theorem not_carries_of_seen
    (seen : (ScanRules.make lookback strict identifiers).passesOver location = false) :
    ¬ Carries identifiers location := by
  intro carries
  cases location with
  | text place =>
    rw [ScanRules.passesOver_make lookback strict identifiers (.text place)] at seen
    exact of_decide_eq_false seen carries
  | null | bool | int | float | list | map | moment | span => exact carries

end Rules

namespace ScanResult

/-- The work, the watermarks and the failures of a result. -/
def findings (result : ScanResult) : List Work × Watermarks × List ScanFailure :=
  (result.work, result.watermarks, result.failures)

/-- What is added to two results with the same findings. -/
theorem findings_add {first second : ScanResult} (same : first.findings = second.findings)
    (table : Table) (outcome : TableOutcome) :
    (first.add table outcome).findings = (second.add table outcome).findings := by
  obtain ⟨work, others⟩ := Prod.mk.inj same
  obtain ⟨watermarks, failures⟩ := Prod.mk.inj others
  simp only [findings, add, work, watermarks, failures]

/-- A table of which nothing has come adds nothing but itself. -/
theorem findings_add_empty (result : ScanResult) (table : Table) :
    (result.add table {}).findings = result.findings := by
  simp only [findings, add, List.append_nil]

theorem findings_addAll_filter {α : Type} {keep : α → Bool} {entry : α → Table × TableOutcome}
    {items : List α} (dropped : ∀ item ∈ items, keep item = false → (entry item).2 = {})
    {first second : ScanResult} (same : first.findings = second.findings) :
    (first.addAll (items.map entry)).findings =
      (second.addAll ((items.filter keep).map entry)).findings := by
  induction items generalizing first second with
  | nil => exact same
  | cons item others ih =>
    have rest := fun other member => dropped other (List.mem_cons_of_mem item member)
    rw [List.map_cons, List.filter_cons]
    cases keeps : keep item with
    | true =>
      rw [if_pos rfl, List.map_cons]
      exact ih rest (findings_add same _ _)
    | false =>
      rw [if_neg Bool.false_ne_true]
      refine ih rest ?_
      rw [dropped item List.mem_cons_self keeps, findings_add_empty, same]

end ScanResult

namespace View

/-- A view and another one that lacks the tables at ignored locations and, of the tables that are
left, the partitions at ignored locations. -/
structure Without (view : View) (identifiers : List String) (other : View) : Prop where
  databases : other.databases = view.databases
  tables : ∀ database ∈ view.shownDatabases, other.tables database =
    (view.tables database).map (·.filter fun table => ¬ Carries identifiers table.location)
  partitions : ∀ table ∈ view.listed, ¬ Carries identifiers table.location →
    other.partitions table = (view.partitions table).map
      (·.filter fun partition => ¬ Carries identifiers partition.location)
  updateTime : ∀ entity, ¬ Carries identifiers entity.location →
    other.updateTime entity = view.updateTime entity

/-- Tables, and the partitions of tables with keys, are stored where things can be stored, and
partitions have a value for each key of their table. What is ignored need not be so. -/
structure Regular (view : View) (identifiers : List String) : Prop where
  tables : ∀ table ∈ view.listed, Placed table.location
  partitions : ∀ table ∈ view.listed, ¬ Carries identifiers table.location →
    table.isPartitioned = true → ∀ partition ∈ view.shownPartitions table,
      Placed partition.location ∧ partition.values.length = table.partitionKeys.length

theorem Regular.seen {view : View} {identifiers : List String} {table : Table}
    (regular : view.Regular identifiers) (listed : table ∈ view.listed)
    (left : ¬ Carries identifiers table.location) (lookback : LookbackPolicy) (strict : Bool) :
    (ScanRules.make lookback strict identifiers).passesOver table.location = false := by
  rw [ScanRules.passesOver_make lookback strict identifiers (regular.tables table listed)]
  exact decide_eq_false left

theorem Regular.passed {view : View} {identifiers : List String} {table : Table}
    (regular : view.Regular identifiers) (listed : table ∈ view.listed)
    (carries : Carries identifiers table.location) (lookback : LookbackPolicy) (strict : Bool) :
    (ScanRules.make lookback strict identifiers).passesOver table.location = true := by
  rw [ScanRules.passesOver_make lookback strict identifiers (regular.tables table listed)]
  exact decide_eq_true carries

namespace Without

variable {view other : View} {identifiers : List String}

theorem shownDatabases_eq (without : view.Without identifiers other) :
    other.shownDatabases = view.shownDatabases := by
  rw [shownDatabases, shownDatabases, without.databases]

/-- The tables that are chosen are those that are left of the tables chosen before. -/
theorem chosen_eq (without : view.Without identifiers other) (selector : Selector) :
    other.chosen selector =
      (view.chosen selector).filter fun table => ¬ Carries identifiers table.location := by
  rw [chosen, chosen, without.shownDatabases_eq, List.filter_flatMap]
  apply List.flatMap_congr
  intro database member
  have tables := without.tables database (List.mem_of_mem_filter member)
  rw [chosenIn, chosenIn, shownTables, shownTables, tables, List.filter_comm]
  cases view.tables database <;> rfl

theorem databaseReport?_eq (without : view.Without identifiers other) {database : String}
    (shown : database ∈ view.shownDatabases) :
    other.databaseReport? database = view.databaseReport? database := by
  rw [databaseReport?, databaseReport?, without.tables database shown]
  cases view.tables database <;> rfl

theorem lostConnection_eq (without : view.Without identifiers other) {database : String}
    (shown : database ∈ view.shownDatabases) :
    lostConnection (other.tables database) = lostConnection (view.tables database) := by
  rw [without.tables database shown]
  cases view.tables database <;> rfl

theorem mem_shownDatabases {database : String} {found : List String} {covers : String → Bool}
    (listed : view.databases = .ok found) (member : database ∈ found.filter covers) :
    database ∈ view.shownDatabases := by
  rw [shownDatabases, listed]
  exact List.mem_of_mem_filter member

/-- The same failures come of listing the databases and their tables. -/
theorem listingFailures_eq (without : view.Without identifiers other) (selector : Selector) :
    other.listingFailures selector = view.listingFailures selector := by
  rw [listingFailures, listingFailures, without.databases]
  cases listed : view.databases with
  | error cause => rfl
  | ok found =>
    refine congrArg (List.map Scan.listingFailure) (List.filterMap_congr ?_)
    exact fun database member => without.databaseReport?_eq (mem_shownDatabases listed member)

theorem choiceFault?_eq (without : view.Without identifiers other) (selector : Selector) :
    other.choiceFault? selector = view.choiceFault? selector := by
  rw [choiceFault?, choiceFault?, without.databases]
  cases listed : view.databases with
  | error cause => rfl
  | ok found =>
    simp only
    rw [← List.head?_filterMap, ← List.head?_filterMap]
    refine congrArg List.head? (List.filterMap_congr fun database member => ?_)
    exact without.lostConnection_eq (mem_shownDatabases listed member)

theorem timeFault?_eq (without : view.Without identifiers other) {entity : Entity}
    (left : ¬ Carries identifiers entity.location) :
    other.timeFault? entity = view.timeFault? entity := by
  rw [timeFault?, timeFault?, without.updateTime entity left]

section Table

variable (without : view.Without identifiers other) (regular : view.Regular identifiers)
  {table : Table} (listed : table ∈ view.listed) (left : ¬ Carries identifiers table.location)

include without regular listed left

/-- The partitions of a table that is left are those that are left of its partitions before. -/
theorem listing_eq (partitioned : table.isPartitioned = true) :
    other.listing table = (view.listing table).map
        (·.filter fun partition => ¬ Carries identifiers partition.location) ∧
      ∀ partitions, view.listing table = .ok partitions →
        ∀ partition ∈ partitions, Placed partition.location := by
  have regularly := regular.partitions table listed left partitioned
  have found := without.partitions table listed left
  unfold listing
  unfold shownPartitions at regularly
  cases answered : view.partitions table with
  | error cause =>
    rw [answered] at found
    rw [found]
    exact ⟨rfl, nofun⟩
  | ok partitions =>
    rw [answered] at found regularly
    have fitting : partitions.find? (fun partition =>
        partition.values.length ≠ table.partitionKeys.length) = none := by
      rw [List.find?_eq_none]
      intro partition member misfits
      exact of_decide_eq_true misfits (regularly partition member).2
    have fittingLeft : (partitions.filter fun partition =>
        ¬ Carries identifiers partition.location).find? (fun partition =>
        partition.values.length ≠ table.partitionKeys.length) = none := by
      rw [List.find?_eq_none] at fitting ⊢
      exact fun partition member => fitting partition (List.mem_of_mem_filter member)
    rw [found]
    simp only [Except.map, fitting, fittingLeft]
    refine ⟨trivial, fun _ same partition member => ?_⟩
    obtain rfl := Except.ok.inj same
    exact (regularly partition member).1

variable (lookback : LookbackPolicy) (strict : Bool)

/-- What is looked at of a table that is left. -/
theorem lookedAt_eq : other.lookedAt (.make lookback strict []) table =
    view.lookedAt (.make lookback strict identifiers) table := by
  unfold lookedAt entitiesOf
  rw [regular.seen listed left, ScanRules.passesOver_make_nil]
  simp only [Bool.false_eq_true, ↓reduceIte, ScanRules.passesOver_make_nil, Bool.not_false,
    List.filter_true]
  cases partitioned : table.isPartitioned with
  | false => simp [Entity.location, regular.seen listed left]
  | true =>
    obtain ⟨same, placed⟩ := without.listing_eq regular listed left partitioned
    rw [same]
    cases answered : view.listing table with
    | error fault => rfl
    | ok partitions =>
      simp only [↓reduceIte, Except.map, Except.toOption, Option.getD_some, List.filter_map]
      refine congrArg (List.map Entity.partition) (List.filter_congr fun partition member => ?_)
      rw [Function.comp, Entity.location, ScanRules.passesOver_make lookback strict identifiers
        (placed partitions answered partition member), decide_not]

/-- The failure of the listing of the partitions of a table that is left. -/
theorem tableFailure?_eq : other.tableFailure? (.make lookback strict []) table =
    view.tableFailure? (.make lookback strict identifiers) table := by
  unfold tableFailure?
  rw [regular.seen listed left, ScanRules.passesOver_make_nil]
  cases partitioned : table.isPartitioned with
  | false => rfl
  | true =>
    rw [(without.listing_eq regular listed left partitioned).1]
    cases view.listing table <;> rfl

theorem surveyTable_eq : other.surveyTable (.make lookback strict []) table =
    view.surveyTable (.make lookback strict identifiers) table := by
  have known : ∀ entity ∈ view.lookedAt (.make lookback strict identifiers) table,
      other.updateTime entity = view.updateTime entity := by
    intro entity looked
    unfold lookedAt at looked
    rw [regular.seen listed left, if_neg Bool.false_ne_true] at looked
    have seen := List.of_mem_filter looked
    exact without.updateTime entity (not_carries_of_seen lookback strict (by simpa using seen))
  unfold surveyTable
  rw [without.lookedAt_eq regular listed left, without.tableFailure?_eq regular listed left]
  refine congrArg₂ (TableSurvey.mk table) ?_ (congrArg _ ?_)
  · apply List.filterMap_congr
    intro entity looked
    rw [sighting?, sighting?, known entity looked]
  · apply List.filterMap_congr
    intro entity looked
    rw [timeFailure?, timeFailure?, known entity looked]

/-- The fault with which a table that is left ends a scan. -/
theorem tableFault?_eq : other.tableFault? (.make lookback strict []) table =
    view.tableFault? (.make lookback strict identifiers) table := by
  rw [tableFault?, tableFault?, regular.seen listed left, ScanRules.passesOver_make_nil,
    ScanRules.locationFault?_make_nil, ScanRules.locationFault?_make lookback strict identifiers
      (regular.tables table listed), Option.none_or, Option.none_or,
    if_neg Bool.false_ne_true, if_neg Bool.false_ne_true]
  unfold openTableFault?
  cases partitioned : table.isPartitioned with
  | false => exact without.timeFault?_eq left
  | true =>
    obtain ⟨same, placed⟩ := without.listing_eq regular listed left partitioned
    rw [same]
    cases answered : view.listing table with
    | error fault => rfl
    | ok partitions =>
      have settled (partition : Partition) (member : partition ∈ partitions) :
          view.partitionFault? (.make lookback strict identifiers) partition =
            if Carries identifiers partition.location then none
            else view.timeFault? (.partition partition) := by
        have placed := placed partitions answered partition member
        rw [partitionFault?, ScanRules.locationFault?_make lookback strict identifiers placed,
          ScanRules.passesOver_make lookback strict identifiers placed, Option.none_or]
        simp only [decide_eq_true_eq]
      refine (findSome?_filter ?_ ?_).symm
      · intro partition member kept
        have left := of_decide_eq_true kept
        have same : other.timeFault? (.partition partition) =
            view.timeFault? (.partition partition) := without.timeFault?_eq left
        rw [settled partition member, if_neg left, partitionFault?,
          ScanRules.locationFault?_make_nil, ScanRules.passesOver_make_nil, Option.none_or,
          if_neg Bool.false_ne_true, same]
      · intro partition member dropped
        rw [settled partition member, if_pos (Decidable.not_not.mp (of_decide_eq_false dropped))]

end Table

section Scan

variable (without : view.Without identifiers other) (regular : view.Regular identifiers)
  (lookback : LookbackPolicy) (strict : Bool) (selector : Selector)

include without regular

/-- The same fault ends both scans, if one does. -/
theorem fault?_eq : other.fault? (.make lookback strict []) selector =
    view.fault? (.make lookback strict identifiers) selector := by
  rw [fault?, fault?, without.choiceFault?_eq, without.chosen_eq]
  refine congrArg _ (findSome?_filter ?_ ?_).symm
  · intro table member kept
    have listed := (view.chosen_sublist_listed selector).subset member
    exact (without.tableFault?_eq regular listed (of_decide_eq_true kept) lookback strict).symm
  · intro table member dropped
    have listed := (view.chosen_sublist_listed selector).subset member
    have carries := Decidable.not_not.mp (of_decide_eq_false dropped)
    rw [tableFault?, ScanRules.locationFault?_make _ _ _ (regular.tables table listed),
      regular.passed listed carries, Option.none_or, if_pos rfl]

/-- The same is found in both scans. -/
theorem findings_eq (priors : Watermarks) (now : Int) :
    ((other.survey (.make lookback strict []) selector).result (.make lookback strict [])
        priors now).findings =
      ((view.survey (.make lookback strict identifiers) selector).result
        (.make lookback strict identifiers) priors now).findings := by
  rw [Survey.result, Survey.result, ScanResult.ofOutcomes_eq_addAll,
    ScanResult.ofOutcomes_eq_addAll, survey, survey, without.listingFailures_eq,
    without.chosen_eq, List.map_map, List.map_map]
  have left : ∀ table ∈ (view.chosen selector).filter fun table =>
      ¬ Carries identifiers table.location,
      table ∈ view.listed ∧ ¬ Carries identifiers table.location := fun table member =>
    ⟨(view.chosen_sublist_listed selector).subset (List.mem_of_mem_filter member),
      of_decide_eq_true (List.mem_filter.mp member).2⟩
  have dropped : ∀ table ∈ view.chosen selector,
      decide (¬ Carries identifiers table.location) = false →
      (view.surveyTable (.make lookback strict identifiers) table).outcome
        (.make lookback strict identifiers) (OrderedMap.get? table.dataset priors) now = {} := by
    intro table member dropped
    have listed := (view.chosen_sublist_listed selector).subset member
    have carries := Decidable.not_not.mp (of_decide_eq_false dropped)
    exact outcome_of_passesOver (regular.passed listed carries lookback strict) _ _
  refine Eq.trans ?_ (ScanResult.findings_addAll_filter dropped rfl).symm
  refine congrArg (fun outcomes => (ScanResult.addAll _ outcomes).findings)
    (List.map_congr_left fun table member => ?_)
  obtain ⟨listed, left⟩ := left table member
  rw [Function.comp, Function.comp, without.surveyTable_eq regular listed left lookback strict]
  rfl

end Scan
end Without
end View

/-- What carries an identifier is spared: the partitions of no such table are listed, nothing such is
looked up, and a partition is looked up only if it is listed for a table. -/
structure Deeds.Spare (deeds : Deeds) (identifiers : List String) : Prop where
  tables : ∀ table answer, .partitions table answer ∈ deeds.talk →
    ¬ Carries identifiers table.location
  entities : ∀ entity answer, .updateTime entity answer ∈ deeds.talk →
    ¬ Carries identifiers entity.location
  listed : ∀ partition answer, .updateTime (.partition partition) answer ∈ deeds.talk →
    ∃ table partitions, .partitions table (.ok partitions) ∈ deeds.talk ∧ partition ∈ partitions

/-- A partition that is known from the talk is listed for a table. -/
theorem Deeds.listed_of_mem_entities {deeds : Deeds} {partition : Partition}
    (known : .partition partition ∈ deeds.entities) :
    ∃ table partitions, .partitions table (.ok partitions) ∈ deeds.talk ∧
      partition ∈ partitions := by
  obtain ⟨exchange, said, listed⟩ := List.mem_flatMap.mp known
  rcases List.mem_append.mp listed with ofTable | ofPartition
  · obtain ⟨_, _, same⟩ := List.mem_map.mp ofTable
    exact nomatch same
  · obtain ⟨_, member, same⟩ := List.mem_map.mp ofPartition
    obtain rfl := Entity.partition.inj same
    unfold Exchange.listedPartitions at member
    split at member
    · exact ⟨_, _, said, member⟩
    · exact absurd member List.not_mem_nil

theorem Conduct.spare {lookback : LookbackPolicy} {strict : Bool} {identifiers : List String}
    {selector : Selector} {deeds : Deeds} {ending : Option Fault}
    (conduct : Conduct (.make lookback strict identifiers) false []
      (selector.agenda (.make lookback strict identifiers) deeds.databases deeds.tables) deeds
      ending) : deeds.Spare identifiers where
  tables table answer said := by
    have called : .partitions table ∈ deeds.calls := List.mem_filterMap.mpr ⟨_, said, rfl⟩
    rcases List.mem_append.mp (conduct.calls.subset called) with choosing | opened
    · rcases List.mem_cons.mp choosing with same | chosen
      · exact nomatch same
      · obtain ⟨_, _, same⟩ := List.mem_map.mp chosen
        exact nomatch same
    · obtain ⟨_, member, same⟩ := List.mem_map.mp opened
      cases same
      have isOpened := (List.mem_filter.mp member).2
      rw [Table.isOpened, Bool.and_eq_true, Bool.not_eq_true'] at isOpened
      exact not_carries_of_seen lookback strict isOpened.2
  entities entity answer said :=
    not_carries_of_seen lookback strict (conduct.looks entity answer said).2
  listed partition answer said :=
    Deeds.listed_of_mem_entities (conduct.looks (.partition partition) answer said).1

/-- **What is ignored is as if it were not there.** Let the services of a pool show a view, and let
other services show the same view without what is stored at a location that carries an identifier.
A scan of the first that ignores the identifiers ends as a scan of the second that ignores nothing:
with the same fault, or with the same work, watermarks and failures. Neither the partitions of
ignored tables are listed, nor is anything looked up that is ignored. -/
theorem ignored_as_if_absent {σ τ κ : Type} [DecidableEq κ] {host : Pool.Host σ κ}
    {updateTime : Entity → Act σ Int} {clock : σ → Int} {ready : σ → Prop} {view : View}
    (shows : (host.services updateTime clock).Shows ready view)
    {services : ScanServices τ} {readyThere : τ → Prop} {other : View}
    (showsOther : services.Shows readyThere other) {identifiers : List String}
    (without : view.Without identifiers other) (regular : view.Regular identifiers)
    (lookback : LookbackPolicy) (strict : Bool) (selector : Selector) (priors : Watermarks)
    (now : Int) (here : Stage σ) (met : ready here.outside) (there : Stage τ)
    (metThere : readyThere there.outside) :
    let ignoring : Scheduler σ :=
      { services := host.services updateTime clock, selector
        rules := .make lookback strict identifiers }
    let plain : Scheduler τ := { services, selector, rules := .make lookback strict [] }
    (runOn (Scan.run ignoring selector priors now) here).1.map ScanResult.findings =
        (runOn (Scan.run plain selector priors now) there).1.map ScanResult.findings ∧
      Follows (Scan.run (ignoring.under (host.watchedServices updateTime clock)) selector priors now)
        (Scan.run ignoring selector priors now) fun deeds _ => deeds.Spare identifiers := by
  intro ignoring plain
  have watch : (host.watchedServices updateTime clock).Watch ignoring.services :=
    Pool.Host.watchedServices_watch updateTime clock
  refine ⟨?_, (run_follows watch selector priors now).imp fun _ _ conduct => conduct.spare⟩
  have showsHere : ignoring.services.Shows ready view := shows
  have showsThere : plain.services.Shows readyThere other := showsOther
  rw [(View.run_gives showsHere selector priors now here met).1,
    (View.run_gives showsThere selector priors now there metThere).1]
  have sameFault : other.fault? plain.rules selector = view.fault? ignoring.rules selector :=
    without.fault?_eq regular lookback strict selector
  have sameFindings : ((other.survey plain.rules selector).result plain.rules priors now).findings =
      ((view.survey ignoring.rules selector).result ignoring.rules priors now).findings :=
    without.findings_eq regular lookback strict selector priors now
  rw [sameFault]
  cases view.fault? ignoring.rules selector with
  | some fault => rfl
  | none => exact congrArg Except.ok sameFindings.symm

/-- The shop without what is stored with the temporary files. -/
def Catalog.clearedShop : Catalog where
  databases := [("sales", [
    ("orders", { dataset := ⟨"sales", "orders"⟩, partitionKeys := [.text "day"] }),
    ("customers", { dataset := ⟨"sales", "customers"⟩, createTime := .int 3 })])]
  partitions := [(⟨"sales", "orders"⟩, [
    { table := ⟨"sales", "orders"⟩, values := ["mon"], createTime := .int 1 },
    { table := ⟨"sales", "orders"⟩, values := ["tue"], createTime := .int 2 },
    { table := ⟨"sales", "orders"⟩, values := ["wed"] }])]

namespace View

variable (updateTime : Entity → Except Fault Int)

theorem shop_without : (Catalog.shop.view [] updateTime).Without ["_tmp"]
    (Catalog.clearedShop.view [] updateTime) where
  databases := rfl
  tables := by
    intro database member
    obtain rfl : database = "sales" := List.mem_singleton.mp member
    have staged : Carries ["_tmp"] (.text "lake/_tmp/staging") := by decide +kernel
    have nowhere : ¬ Carries ["_tmp"] .null := id
    simp [Catalog.view, Catalog.answer, OrderedMap.get?, Catalog.listTables, Catalog.shop,
      Catalog.clearedShop, OrderedMap.values, Except.map, staged, nowhere]
  partitions := by
    have datasets : ∀ table ∈ (Catalog.shop.view [] fun _ => .ok 0).listed,
        ¬ Carries ["_tmp"] table.location →
          table.dataset = ⟨"sales", "orders"⟩ ∨ table.dataset = ⟨"sales", "customers"⟩ := by
      decide +kernel
    have stored : Carries ["_tmp"] (.text "lake/_tmp/thu") := by decide +kernel
    have nowhere : ¬ Carries ["_tmp"] .null := id
    intro table member left
    rcases datasets table member left with orders | customers
    · simp [Catalog.view, Catalog.answer, OrderedMap.get?, Catalog.listPartitions, Catalog.shop,
        Catalog.clearedShop, Except.map, stored, nowhere, orders]
    · simp [Catalog.view, Catalog.answer, OrderedMap.get?, Catalog.listPartitions, Catalog.shop,
        Catalog.clearedShop, Except.map, customers]
  updateTime _ _ := rfl

theorem shop_regular : (Catalog.shop.view [] updateTime).Regular ["_tmp"] := by
  have regular : (Catalog.shop.view [] fun _ => .ok 0).Regular ["_tmp"] :=
    ⟨by decide +kernel, by decide +kernel⟩
  exact ⟨regular.tables, regular.partitions⟩

end View

/-- A scan of the shop that ignores the temporary files. -/
def Site.ignoringShop : Scheduler Site where
  services := (host (clients "shop")).services
    (fun entity => settle (UpdateTimeSource.creationTime entity)) now
  selector := .everything
  rules := .make {} true ["_tmp"]

/-- A scan of a shop that ignores nothing. -/
def Site.plainShop : Scheduler Site where
  services := servicesAt "shop" UpdateTimeSource.creationTime
  selector := .everything
  rules := .make {} true []

/-- The shop with its temporary files ignored is scanned as the shop without them. -/
theorem ignored_in_shop :
    ((runOn (Scan.run Site.ignoringShop .everything [] 5000)
        { outside := Site.shop [] }).1.toOption.map fun result =>
          result.work.map fun work => (work.table.dataset.table, work.updateTime)) =
      some [("orders", 1000), ("orders", 2000), ("customers", 3000)] ∧
    (runOn (Scan.run Site.ignoringShop .everything [] 5000)
        { outside := Site.shop [] }).1.map ScanResult.findings =
      (runOn (Scan.run Site.plainShop .everything [] 5000)
        { outside := { catalog := .clearedShop } }).1.map ScanResult.findings := by
  have shows : ((Site.host (Site.clients "shop")).services
      (fun entity => settle (UpdateTimeSource.creationTime entity)) Site.now).Shows
        (Site.OpenShop []) (Catalog.shop.view [] UpdateTimeSource.creationTime) :=
    Site.shopScheduler_shows [] UpdateTimeSource.creationTime
  have showsCleared : Site.plainShop.services.Shows
      ((Site.host (Site.clients "shop")).At (Site.Offers .clearedShop []) 1 0)
        (Catalog.clearedShop.view [] UpdateTimeSource.creationTime) :=
    Site.servicesAt_show "shop" 0 0
  have absent := ignored_as_if_absent shows showsCleared
    (View.shop_without _) (View.shop_regular _) {} true .everything [] 5000
    { outside := Site.shop [] } (Site.shop_open []) { outside := { catalog := .clearedShop } }
    ⟨⟨rfl, rfl, rfl⟩, ⟨rfl, rfl, rfl⟩⟩
  exact ⟨by decide +kernel, absent.1⟩

end CatalogDelta
