import CatalogDelta.Proofs.Act.Yields
import CatalogDelta.Proofs.Scan.Watermark
import CatalogDelta.Scan.Run

/-!
# What a scan keeps, and how its watermarks are backed

A scan keeps whatever condition its services keep, however it ends. In the result every dataset has
at most one watermark, and each watermark is the update time of a unit of work of the result,
whatever the services answer. Main statement: `Scan.request_yields`.
-/

namespace CatalogDelta

open Act OrderedMap

variable {σ : Type} {ready : σ → Prop}

/-- The watermark of a table is the update time of some of its work. -/
def TableOutcome.IsBacked (outcome : TableOutcome) : Prop :=
  ∀ mark, outcome.watermark = some mark → ∃ work ∈ outcome.work, work.updateTime = mark

/-- Every dataset has at most one watermark, and each is the update time of some work. -/
structure ScanResult.IsBacked (result : ScanResult) : Prop where
  distinct : (keys result.watermarks).Nodup
  backed : ∀ entry ∈ result.watermarks, ∃ work ∈ result.work, work.updateTime = entry.2

theorem TableOutcome.isBacked_of_none {outcome : TableOutcome}
    (unmarked : outcome.watermark = none) : outcome.IsBacked := by
  intro mark marked
  rw [unmarked] at marked
  contradiction

theorem TableOutcome.ofEvaluation_isBacked (table : Table) (evaluation : Evaluation) :
    (ofEvaluation table evaluation).IsBacked := by
  intro mark marked
  have admitted : evaluation.admitted = some mark := marked
  refine ⟨{ dataset := table.dataset, table, updateTime := mark }, ?_, rfl⟩
  rw [ofEvaluation, admitted]
  exact List.mem_singleton_self _

/-- A watermark that advances is the candidate. -/
theorem TableOutcome.advanced_eq_some {prior candidate : Option Int} {mark : Int}
    (advances : advanced prior candidate = some mark) : candidate = some mark := by
  cases candidate with
  | none => exact advances
  | some candidate =>
    cases prior with
    | none => exact advances
    | some prior =>
      unfold advanced at advances
      dsimp only at advances
      split at advances
      · exact advances
      · contradiction

theorem TableOutcome.ofEvaluations_isBacked (table : Table) (prior : Option Int)
    (evaluated : List (Partition × Evaluation)) :
    (ofEvaluations table prior evaluated).IsBacked := by
  intro mark marked
  have latest : (evaluated.filterMap (·.2.admitted)).max? = some mark := by
    rw [← RunningMax.offerAll_value]
    exact advanced_eq_some marked
  obtain ⟨⟨partition, evaluation⟩, member, admitted⟩ :=
    List.mem_filterMap.mp (List.max?_mem latest)
  have admitted : evaluation.admitted = some mark := admitted
  have made : { dataset := table.dataset, table, updateTime := mark, partition := some partition } ∈
      workFor table partition evaluation := by
    rw [workFor, admitted]
    exact List.mem_singleton_self _
  exact ⟨_, List.mem_flatMap.mpr ⟨(partition, evaluation), member, made⟩, rfl⟩

/-- The watermark of an added table is backed by the work that is added with it. -/
theorem ScanResult.IsBacked.add {result : ScanResult} (backed : result.IsBacked) (table : Table)
    {outcome : TableOutcome} (backs : outcome.IsBacked) : (result.add table outcome).IsBacked := by
  cases marked : outcome.watermark with
  | none =>
    have same : (result.add table outcome).watermarks = result.watermarks := by
      rw [add_watermarks, marked]
    refine ⟨?_, fun entry member => ?_⟩
    · rw [same]
      exact backed.distinct
    · rw [same] at member
      obtain ⟨work, there, time⟩ := backed.backed entry member
      exact ⟨work, List.mem_append_left _ there, time⟩
  | some mark =>
    have put_eq : (result.add table outcome).watermarks =
        put table.dataset mark result.watermarks := by
      rw [add_watermarks, marked]
    refine ⟨?_, fun entry member => ?_⟩
    · rw [put_eq]
      exact nodup_keys_put backed.distinct _ _
    · rw [put_eq] at member
      rcases mem_put member with rfl | before
      · obtain ⟨work, there, time⟩ := backs mark marked
        exact ⟨work, List.mem_append_right _ there, time⟩
      · obtain ⟨work, there, time⟩ := backed.backed entry before
        exact ⟨work, List.mem_append_left _ there, time⟩

theorem ScanResult.IsBacked.addAll {result : ScanResult} (backed : result.IsBacked)
    {outcomes : List (Table × TableOutcome)} (back : ∀ outcome ∈ outcomes, outcome.2.IsBacked) :
    (result.addAll outcomes).IsBacked := by
  induction outcomes generalizing result with
  | nil => exact backed
  | cons outcome others ih =>
    refine ih (backed.add outcome.1 (back outcome List.mem_cons_self)) ?_
    exact fun other member => back other (List.mem_cons_of_mem _ member)

theorem ScanResult.isBacked_of_unmarked {result : ScanResult} (unmarked : result.watermarks = []) :
    result.IsBacked := by
  constructor
  · rw [unmarked]
    exact List.nodup_nil
  · intro entry member
    rw [unmarked] at member
    exact absurd member List.not_mem_nil

/-- The calls of a client keep a condition. -/
structure Client.Keep (client : Client σ) (ready : σ → Prop) : Prop where
  databases : Keeps ready client.listDatabases
  tables : ∀ database, Keeps ready (client.listTables database)
  partitions : ∀ table, Keeps ready (client.listPartitions table)

/-- The services keep a condition, a lease wherever the work under it does. -/
structure ScanServices.Keep (services : ScanServices σ) (ready : σ → Prop) : Prop where
  lease : ∀ {α : Type} (work : Client σ → Act σ α),
    (∀ client : Client σ, client.Keep ready → Keeps ready (work client)) →
      Keeps ready (services.lease work)
  updateTime : ∀ entity, Keeps ready (services.updateTime entity)
  clock : Keeps ready services.clock

namespace Selector

variable {client : Client σ}

theorem listing_keeps {α : Type} {act : Act σ α} (first : Keeps ready act) :
    Keeps ready (listing act) := by
  refine first.attempt_bind fun outcome => ?_
  cases outcome with
  | ok answer => exact keeps_pure _
  | error fault =>
    dsimp only
    split
    · exact keeps_throw fault
    · exact keeps_pure _

theorem selectDatabases_keeps (selector : Selector) (keep : client.Keep ready) :
    Keeps ready (selector.selectDatabases client) := by
  refine (listing_keeps keep.databases).bind fun outcome => ?_
  cases outcome with
  | ok databases => exact keeps_pure _
  | error cause => exact keeps_throw _

theorem selectTables_keeps (selector : Selector) (keep : client.Keep ready) (database : String) :
    Keeps ready (selector.selectTables client database) := by
  refine (listing_keeps (keep.tables database)).bind fun outcome => ?_
  cases outcome with
  | ok tables => exact (keeps_note _ _ _).bind fun _ => keeps_pure _
  | error cause => exact (keeps_note _ _ _).bind fun _ => keeps_pure _

theorem selectAmong_keeps (selector : Selector) (keep : client.Keep ready)
    (databases : List String) (selection : Selection) :
    Keeps ready (selector.selectAmong client databases selection) := by
  induction databases generalizing selection with
  | nil => exact keeps_pure selection
  | cons database others ih => exact (selectTables_keeps selector keep database).bind fun _ => ih _

theorem select_keeps (selector : Selector) (keep : client.Keep ready) :
    Keeps ready (selector.select client) :=
  (selectDatabases_keeps selector keep).bind fun databases =>
    selectAmong_keeps selector keep databases {}

end Selector

namespace Scan

variable {services : ScanServices σ}

theorem evaluate_keeps (keep : services.Keep ready) (rules : ScanRules) (table : Table)
    (prior : Option Int) (now : Int) (entity : Entity) :
    Keeps ready (evaluate services rules table prior now entity) := by
  refine (keep.updateTime entity).attempt_bind fun outcome => ?_
  cases outcome with
  | ok updateTime => exact keeps_pure _
  | error fault =>
    dsimp only
    split
    · exact (keeps_record _).bind fun _ => keeps_pure _
    · exact keeps_throw fault

theorem evaluatePartition_keeps (keep : services.Keep ready) (rules : ScanRules) (table : Table)
    (prior : Option Int) (now : Int) (partition : Partition) :
    Keeps ready (evaluatePartition services rules table prior now partition) := by
  refine (keeps_settle _).bind fun ignored => ?_
  cases ignored with
  | true => exact (keeps_record _).bind fun _ => keeps_pure _
  | false => exact evaluate_keeps keep rules table prior now (.partition partition)

theorem fetchPartitions_keeps {client : Client σ} (keep : client.Keep ready) (table : Table) :
    Keeps ready (fetchPartitions table client) := by
  refine (keep.partitions table).attempt_bind fun outcome => ?_
  cases outcome with
  | ok partitions => exact keeps_pure _
  | error fault =>
    dsimp only
    split
    · exact keeps_throw _
    · exact keeps_throw _

theorem listPartitions_keeps (keep : services.Keep ready) (table : Table) :
    Keeps ready (listPartitions services table) := by
  have fetches := keep.lease (fetchPartitions table) fun client keep =>
    fetchPartitions_keeps keep table
  refine fetches.bind fun partitions => ?_
  split
  · exact keeps_throw _
  · exact keeps_pure _

theorem scanPartitions_yields (keep : services.Keep ready) (rules : ScanRules) (table : Table)
    (prior : Option Int) (now : Int) (partitions : List Partition) :
    Yields ready (scanPartitions services rules table prior now partitions)
      TableOutcome.IsBacked := by
  refine (Yields.mapM (evaluatePartition_keeps keep rules table prior now) partitions).bind
    fun evaluations _ => (keeps_record _).bind fun _ => yields_pure ?_
  exact TableOutcome.ofEvaluations_isBacked table prior _

theorem scanPartitioned_yields (keep : services.Keep ready) (rules : ScanRules) (table : Table)
    (prior : Option Int) (now : Int) :
    Yields ready (scanPartitioned services rules table prior now) TableOutcome.IsBacked := by
  refine (listPartitions_keeps keep table).attempt_bind fun outcome => ?_
  cases outcome with
  | ok partitions => exact scanPartitions_yields keep rules table prior now partitions
  | error fault =>
    dsimp only
    split
    · refine (keeps_record _).bind fun _ => yields_pure ?_
      exact TableOutcome.isBacked_of_none rfl
    · exact yields_throw fault _

theorem scanWhole_yields (keep : services.Keep ready) (rules : ScanRules) (table : Table)
    (prior : Option Int) (now : Int) :
    Yields ready (scanWhole services rules table prior now) TableOutcome.IsBacked :=
  (evaluate_keeps keep rules table prior now (.table table)).bind fun evaluation =>
    yields_pure (TableOutcome.ofEvaluation_isBacked table evaluation)

theorem scanTable_yields (keep : services.Keep ready) (rules : ScanRules) (now : Int)
    (prior : Option Int) (table : Table) :
    Yields ready (scanTable services rules now prior table) TableOutcome.IsBacked := by
  have noted {act : Act σ TableOutcome} (message : TableOutcome → String)
      (scanned : Yields ready act TableOutcome.IsBacked) :
      Yields ready
        (do
          let outcome ← act
          note table Level.debug (message outcome)
          return outcome) TableOutcome.IsBacked :=
    scanned.bind fun outcome backed => (keeps_record _).bind fun _ => yields_pure backed
  refine (keeps_settle _).bind fun ignored => ?_
  cases ignored with
  | true =>
    exact (keeps_record _).bind fun _ => yields_pure (TableOutcome.isBacked_of_none rfl)
  | false =>
    cases table.isPartitioned with
    | true => exact noted _ (scanPartitioned_yields keep rules table prior now)
    | false => exact noted _ (scanWhole_yields keep rules table prior now)

theorem choose_keeps (keep : services.Keep ready) (selector : Selector) :
    Keeps ready (choose services selector) := by
  refine (keep.lease _ fun client keep => selector.select_keeps keep).attempt_bind
    fun outcome => ?_
  cases outcome with
  | ok selection => exact keeps_pure _
  | error fault =>
    dsimp only
    split
    · exact (keeps_note _ _ _).bind fun _ => keeps_pure _
    · exact keeps_throw fault

variable {scheduler : Scheduler σ}

theorem scanSelection_yields (keep : scheduler.services.Keep ready) (selection : Selection)
    (priors : Watermarks) (now : Int) :
    Yields ready (scanSelection scheduler selection priors now) ScanResult.IsBacked := by
  have scanned : Yields ready
      (do
        let outcomes ← scanTables scheduler.services scheduler.rules priors now selection.tables
        return ScanResult.ofOutcomes (selection.failures.map listingFailure)
          (selection.tables.zip outcomes)) ScanResult.IsBacked := by
    refine (Yields.mapM (fun table => scanTable_yields keep scheduler.rules now _ table)
      selection.tables).bind fun outcomes back => yields_pure ?_
    rw [ScanResult.ofOutcomes_eq_addAll]
    refine (ScanResult.isBacked_of_unmarked rfl).addAll fun outcome member => ?_
    exact back outcome.2 (List.of_mem_zip member).2
  unfold scanSelection
  split
  · exact (keeps_note _ _ _).bind fun _ => scanned
  · exact scanned

theorem run_yields (keep : scheduler.services.Keep ready) (selector : Selector)
    (priors : Watermarks) (now : Int) :
    Yields ready (run scheduler selector priors now) ScanResult.IsBacked := by
  refine keep.clock.bind fun started => (keeps_note _ _ _).bind fun _ => ?_
  refine (choose_keeps keep selector).bind fun choice => ?_
  cases choice with
  | error failure => exact yields_pure (ScanResult.isBacked_of_unmarked rfl)
  | ok selection =>
    refine (scanSelection_yields keep selection priors now).bind fun result backed => ?_
    exact keep.clock.bind fun ended => (keeps_note _ _ _).bind fun _ => yields_pure backed

/-- **A scan keeps what its services keep, and its watermarks are backed by its work.** -/
theorem request_yields (keep : scheduler.services.Keep ready) (prior : List (WatermarkKey × Data))
    (now : Data) (selector : Option Selector) :
    Yields ready (request scheduler prior now selector) ScanResult.IsBacked := by
  have timed : Keeps ready (timeOf scheduler now) := by
    cases now with
    | null => exact keep.clock
    | _ => exact keeps_settle _
  exact timed.bind fun now => (keeps_settle _).bind fun priors =>
    run_yields keep (selector.getD scheduler.selector) priors now

end Scan
end CatalogDelta
