import CatalogDelta.Proofs.Catalog.History
import CatalogDelta.Proofs.Lookback.Window
import CatalogDelta.Proofs.Scan.Advance

/-!
# Narrower scans

A scan is narrower than another one of the same catalog if its watermarks are higher, if it is later,
and if its lookback is shorter. What it admits, the wider scan admits too, and of what the wider scan
admits it leaves out only what is earlier than anything it admits itself. Main statement: the
narrower scan gives a part of the work, in the same order, and a part of the watermarks; the failures
and the number of tables are the same.
-/

namespace CatalogDelta

open Act OrderedMap

/-- A lookback reaches no further than another one. -/
structure LookbackPolicy.Within (narrow wide : LookbackPolicy) : Prop where
  shorter : ∀ span ∈ wide.lookback, ∃ within ∈ narrow.lookback, within.micros ≤ span.micros
  edge : narrow.inclusive = true → wide.inclusive = true

/-- Each dataset that has a watermark has one that is at least as high in the other watermarks. -/
def Watermarks.RaisedTo (marks raised : Watermarks) : Prop :=
  ∀ dataset, ∀ mark ∈ get? dataset marks, raised.Reaches dataset mark

theorem Span.millis_mono {short long : Span} (shorter : short.micros ≤ long.micros) :
    short.millis ≤ long.millis := by
  have reach := (short.le_millis_iff short.millis).mp (Int.le_refl _)
  exact (long.le_millis_iff _).mpr (Int.le_trans reach shorter)

/-- What lies in a window lay in every wider one at any time before. -/
theorem LookbackPolicy.Within.admits {narrow wide : LookbackPolicy} (within : narrow.Within wide)
    {updateTime now later : Int} (passed : now ≤ later)
    (inside : narrow.admits updateTime later = true) : wide.admits updateTime now = true := by
  unfold LookbackPolicy.admits
  cases window : wide.lookback with
  | none => rfl
  | some span =>
    obtain ⟨short, known, shorter⟩ := within.shorter span window
    have reach := Span.millis_mono shorter
    simp only [LookbackPolicy.admits, Option.mem_def.mp known] at inside ⊢
    cases edge : narrow.inclusive with
    | true =>
      simp only [edge, within.edge edge, ↓reduceIte, decide_eq_true_eq] at inside ⊢
      omega
    | false =>
      simp only [edge, Bool.false_eq_true, ↓reduceIte, decide_eq_true_eq] at inside
      split
      · rw [decide_eq_true_eq]
        omega
      · rw [decide_eq_true_eq]
        omega

namespace ScanRules

variable (rules : ScanRules) {narrow : LookbackPolicy} {prior raised : Option Int}

/-- What is new after a watermark was new after every lower one. -/
theorem isNew_of_raised (higher : ∀ mark ∈ prior, ∃ above ∈ raised, mark ≤ above)
    {updateTime : Int} (new : rules.isNew updateTime raised = true) :
    rules.isNew updateTime prior = true := by
  cases prior with
  | none => rfl
  | some mark =>
    obtain ⟨above, known, below⟩ := higher mark rfl
    subst known
    simp only [isNew] at new ⊢
    cases strict : rules.strict with
    | true =>
      simp only [strict, ↓reduceIte, decide_eq_true_eq] at new ⊢
      exact Int.lt_of_le_of_lt below new
    | false =>
      simp only [strict, Bool.false_eq_true, ↓reduceIte, decide_eq_true_eq] at new ⊢
      exact Int.le_trans below new

/-- **Admission only ever narrows.** What is admitted with a shorter lookback, later and after a
higher watermark is admitted anyway. -/
theorem admits_of_narrower (within : narrow.Within rules.lookback) {now later : Int}
    (passed : now ≤ later) (higher : ∀ mark ∈ prior, ∃ above ∈ raised, mark ≤ above)
    {updateTime : Int}
    (admitted : ({ rules with lookback := narrow } : ScanRules).admits updateTime raised later =
      true) : rules.admits updateTime prior now = true := by
  obtain ⟨inside, new⟩ := (admits_eq_true_iff ..).mp admitted
  exact (admits_eq_true_iff ..).mpr ⟨within.admits passed inside, rules.isNew_of_raised higher new⟩

end ScanRules

namespace TableSurvey

variable (survey : TableSurvey) {rules : ScanRules} {narrow : LookbackPolicy}
  {prior raised : Option Int} {now later : Int}

theorem admitted_sublist (within : narrow.Within rules.lookback) (passed : now ≤ later)
    (higher : ∀ mark ∈ prior, ∃ above ∈ raised, mark ≤ above) :
    (survey.admitted { rules with lookback := narrow } raised later).Sublist
      (survey.admitted rules prior now) :=
  List.monotone_filter_right _ fun _ => rules.admits_of_narrower within passed higher

/-- The latest of the updates that are still admitted is the latest of all that were: whatever is
later than an admitted update is admitted too. -/
theorem latest?_of_narrower (within : narrow.Within rules.lookback) (passed : now ≤ later)
    (higher : ∀ mark ∈ prior, ∃ above ∈ raised, mark ≤ above) {latest : Int}
    (known : Sighting.latest? (survey.admitted { rules with lookback := narrow } raised later) =
      some latest) :
    Sighting.latest? (survey.admitted rules prior now) = some latest := by
  obtain ⟨member, largest⟩ := List.max?_eq_some_iff.mp known
  obtain ⟨sighting, still, rfl⟩ := List.mem_map.mp member
  refine List.max?_eq_some_iff.mpr
    ⟨List.mem_map_of_mem ((survey.admitted_sublist within passed higher).subset still), ?_⟩
  intro time offered
  obtain ⟨other, admitted, rfl⟩ := List.mem_map.mp offered
  by_contra above
  have after := ScanRules.admits_of_later _ (Int.not_le.mp above) (List.mem_filter.mp still).2
  exact above (largest _ (List.mem_map_of_mem
    (List.mem_filter.mpr ⟨(List.mem_filter.mp admitted).1, after⟩)))

/-- A watermark to which a table still advances is the one to which it advanced before. -/
theorem watermark_of_narrower (within : narrow.Within rules.lookback) (passed : now ≤ later)
    (higher : ∀ mark ∈ prior, ∃ above ∈ raised, mark ≤ above) {mark : Int}
    (advances : survey.watermark { rules with lookback := narrow } raised later = some mark) :
    survey.watermark rules prior now = some mark := by
  obtain ⟨latest, above⟩ := watermark_eq_some_iff.mp advances
  refine watermark_eq_some_iff.mpr
    ⟨survey.latest?_of_narrower within passed higher latest, above.imp_left ?_⟩
  intro above before given
  obtain ⟨raised, known, below⟩ := higher before given
  exact Int.lt_of_le_of_lt below (above raised known)

end TableSurvey

/-- Of the tables of a dataset the last one that raises its watermark decides. -/
theorem ScanResult.get?_addAll (result : ScanResult) (outcomes : List (Table × TableOutcome))
    (dataset : Dataset) :
    get? dataset (result.addAll outcomes).watermarks =
      (outcomes.reverse.findSome? fun outcome =>
        if outcome.1.dataset = dataset then outcome.2.watermark else none).or
          (get? dataset result.watermarks) := by
  induction outcomes generalizing result with
  | nil => rfl
  | cons outcome others ih =>
    rw [addAll, ih, get?_add, List.reverse_cons, List.findSome?_append, Option.or_assoc]
    congr 1
    rw [List.findSome?_singleton]
    split
    · rfl
    · rfl

/-- The watermark to which a table advances, if it is a table of the dataset. -/
def TableSurvey.watermarkFor (survey : TableSurvey) (rules : ScanRules) (priors : Watermarks)
    (now : Int) (dataset : Dataset) : Option Int :=
  if survey.table.dataset = dataset then survey.watermark rules (get? dataset priors) now else none

theorem TableSurvey.dataset_of_watermarkFor {survey : TableSurvey} {rules : ScanRules}
    {priors : Watermarks} {now mark : Int} {dataset : Dataset}
    (advances : survey.watermarkFor rules priors now dataset = some mark) :
    survey.table.dataset = dataset :=
  (Option.ite_none_right_eq_some.mp advances).1

/-- Members with the same key are the same if the key occurs at most once. -/
theorem eq_of_count_le_one {α κ : Type} [DecidableEq κ] {members : List α} (key : α → κ)
    {wanted : κ} (once : (members.map key).count wanted ≤ 1) {first second : α}
    (one : first ∈ members) (two : second ∈ members) (same : key first = wanted)
    (other : key second = wanted) : first = second := by
  induction members with
  | nil => exact absurd one List.not_mem_nil
  | cons member others ih =>
    rw [List.map_cons, List.count_cons] at once
    have counted {found : α} (later : found ∈ others) (carries : key found = wanted) :
        0 < (others.map key).count wanted :=
      List.count_pos_iff.mpr (carries ▸ List.mem_map_of_mem later)
    rcases List.mem_cons.mp one with rfl | later
    · rcases List.mem_cons.mp two with rfl | after
      · rfl
      · have more := counted after other
        simp only [same, beq_self_eq_true, ↓reduceIte] at once
        omega
    · rcases List.mem_cons.mp two with rfl | after
      · have more := counted later same
        simp only [other, beq_self_eq_true, ↓reduceIte] at once
        omega
      · exact ih (Nat.le_trans (Nat.le_add_right _ _) once) later after

namespace Survey

variable {survey : Survey} {rules : ScanRules} {narrow : LookbackPolicy}
  {priors raised : Watermarks} {now later : Int} {dataset : Dataset}

theorem get?_result : get? dataset (survey.result rules priors now).watermarks =
    survey.tables.reverse.findSome? (·.watermarkFor rules priors now dataset) := by
  rw [result, ScanResult.ofOutcomes_eq_addAll, ScanResult.get?_addAll, ← List.map_reverse,
    List.findSome?_map, show get? dataset ({} : ScanResult).watermarks = none from rfl,
    Option.or_none]
  congr
  funext seen
  simp only [Function.comp_apply, TableSurvey.watermarkFor]
  split
  · rename_i same
    rw [← same]
    rfl
  · rfl

theorem work_of_narrower (within : narrow.Within rules.lookback) (higher : priors.RaisedTo raised)
    (passed : now ≤ later) :
    (survey.result { rules with lookback := narrow } raised later).work.Sublist
      (survey.result rules priors now).work := by
  rw [result_work, result_work]
  refine List.Sublist.flatMap_right _ fun seen _ => ?_
  exact (seen.admitted_sublist within passed (higher _)).map _

/-- A dataset that still advances advanced before; and if it has one table, to the same watermark. -/
theorem get?_of_narrower (within : narrow.Within rules.lookback) (higher : priors.RaisedTo raised)
    (passed : now ≤ later) {mark : Int}
    (advances : get? dataset (survey.result { rules with lookback := narrow } raised
      later).watermarks = some mark) :
    ∃ before, get? dataset (survey.result rules priors now).watermarks = some before ∧
      ((survey.tables.map (·.table.dataset)).count dataset ≤ 1 → before = mark) := by
  rw [get?_result] at advances ⊢
  obtain ⟨seen, member, still⟩ := List.exists_of_findSome?_eq_some advances
  have advanced : seen.watermarkFor rules priors now dataset = some mark := by
    unfold TableSurvey.watermarkFor at still ⊢
    obtain ⟨same, still⟩ := Option.ite_none_right_eq_some.mp still
    rw [if_pos same]
    exact seen.watermark_of_narrower within passed (higher dataset) still
  obtain ⟨before, known⟩ : ∃ before, survey.tables.reverse.findSome?
      (·.watermarkFor rules priors now dataset) = some before := by
    rw [← Option.isSome_iff_exists, List.findSome?_isSome_iff]
    refine ⟨seen, member, ?_⟩
    rw [advanced]
    rfl
  refine ⟨before, known, fun once => ?_⟩
  obtain ⟨other, otherMember, decided⟩ := List.exists_of_findSome?_eq_some known
  obtain rfl : other = seen := eq_of_count_le_one (·.table.dataset) once
    (List.mem_reverse.mp otherMember) (List.mem_reverse.mp member)
    (TableSurvey.dataset_of_watermarkFor decided) (TableSurvey.dataset_of_watermarkFor still)
  exact Option.some.inj (decided.symm.trans advanced)

end Survey

/-- A dataset is listed at most once. -/
def View.ListsAtMostOnce (view : View) (dataset : Dataset) : Prop :=
  (view.listed.map (·.dataset)).count dataset ≤ 1

theorem View.ListsAtMostOnce.survey {view : View} {dataset : Dataset}
    (once : view.ListsAtMostOnce dataset) (rules : ScanRules) (selector : Selector) :
    ((view.survey rules selector).tables.map (·.table.dataset)).count dataset ≤ 1 := by
  rw [survey_datasets]
  exact Nat.le_trans (((view.chosen_sublist_listed selector).map _).count_le dataset) once

/-- The datasets that are shown of a database are those that are kept for it, or none. -/
theorem Catalog.InStep.datasets_shown {catalog : Catalog} (kept : catalog.InStep)
    (faults : OrderedMap CatalogCall Fault) (updateTime : Entity → Except Fault Int)
    (database : String) :
    (((catalog.view faults updateTime).shownTables database).map (·.dataset)).Sublist
      ((keys (catalog.tablesOf database)).map (Dataset.mk database)) := by
  simp only [View.shownTables, view, answer]
  cases get? (CatalogCall.tables database) faults with
  | some fault => exact List.nil_sublist _
  | none =>
    cases listed : catalog.listTables database with
    | error fault => exact List.nil_sublist _
    | ok tables =>
      obtain ⟨held, found, rfl⟩ := listTables_eq_ok_iff.mp listed
      rw [← kept.datasets_eq, tablesOf_of_get? found]
      exact List.Sublist.refl _

/-- Whatever has been done to a catalog, it lists no dataset twice. -/
theorem Catalog.listsOnce_after (changes : List CatalogChange)
    (faults : OrderedMap CatalogCall Fault) (updateTime : Entity → Except Fault Int) :
    ((after changes).view faults updateTime).ListsOnce := by
  have kept := inStep_after changes
  have housed {database : String} {dataset : Dataset} (member : dataset ∈
      (((after changes).view faults updateTime).shownTables database).map (·.dataset)) :
      dataset.database = database := by
    obtain ⟨name, _, rfl⟩ :=
      List.mem_map.mp ((kept.datasets_shown faults updateTime database).subset member)
    rfl
  have databases : ((after changes).view faults updateTime).shownDatabases.Nodup := by
    simp only [View.shownDatabases, view, answer]
    cases get? CatalogCall.databases faults with
    | some fault => exact List.nodup_nil
    | none => exact kept.databases
  rw [View.ListsOnce, View.listed, List.map_flatMap, List.nodup_flatMap]
  refine ⟨fun database _ => ?_, databases.imp fun different => ?_⟩
  · refine List.Nodup.sublist (kept.datasets_shown faults updateTime database) ?_
    exact (kept.tables database).map fun _ _ same => (Dataset.mk.inj same).2
  · refine List.disjoint_left.mpr fun dataset one other => ?_
    exact different ((housed one).symm.trans (housed other))

/-- A scheduler with another lookback. -/
def Scheduler.withLookback {σ : Type} (scheduler : Scheduler σ) (lookback : LookbackPolicy) :
    Scheduler σ :=
  { scheduler with rules := { scheduler.rules with lookback } }

/-- What a scan gives is part of what another one gives: its work, in the same order, and its
watermarks. Of the failures and of the tables nothing is left out. Should a client list a dataset
twice, which is one table of a catalog, the last of its tables that advances decides the watermark,
and it need not be the same one in both scans. -/
structure ScanResult.PartOf (part whole : ScanResult) (view : View) : Prop where
  work : part.work.Sublist whole.work
  watermark : ∀ dataset mark, get? dataset part.watermarks = some mark →
    ∃ before, get? dataset whole.watermarks = some before ∧
      (view.ListsAtMostOnce dataset → before = mark)
  failures : part.failures = whole.failures
  tablesScanned : part.tablesScanned = whole.tablesScanned

/-- Of a catalog, whatever has been done to it, a part of a result has no watermark of its own. -/
theorem ScanResult.PartOf.get?_of_catalog {part whole : ScanResult}
    {changes : List CatalogChange} {faults : OrderedMap CatalogCall Fault}
    {updateTime : Entity → Except Fault Int}
    (partOf : part.PartOf whole ((Catalog.after changes).view faults updateTime))
    {dataset : Dataset} {mark : Int} (advances : get? dataset part.watermarks = some mark) :
    get? dataset whole.watermarks = some mark := by
  obtain ⟨before, known, same⟩ := partOf.watermark dataset mark advances
  have once := Catalog.listsOnce_after changes faults updateTime
  rw [known, same (List.nodup_iff_count_le_one.mp once dataset)]

/-- **A narrower scan gives a part.** Of a catalog, whatever has been done to it, it gives no
watermark that the wider scan does not give. -/
theorem narrower_scan_part {σ : Type} {scheduler : Scheduler σ} {ready : σ → Prop} {view : View}
    (shows : scheduler.services.Shows ready view) {narrow : LookbackPolicy}
    (within : narrow.Within scheduler.rules.lookback) (selector : Selector)
    {priors raised : Watermarks} (higher : priors.RaisedTo raised) {now later : Int}
    (passed : now ≤ later) (stage next : Stage σ) (met : ready stage.outside)
    (stillMet : ready next.outside) :
    (∃ fault, (runOn (Scan.run scheduler selector priors now) stage).1 = .error fault ∧
      (runOn (Scan.run (scheduler.withLookback narrow) selector raised later) next).1 =
        .error fault) ∨
    ∃ whole part, (runOn (Scan.run scheduler selector priors now) stage).1 = .ok whole ∧
      (runOn (Scan.run (scheduler.withLookback narrow) selector raised later) next).1 = .ok part ∧
      part.PartOf whole view ∧
      ∀ changes faults updateTime, view = (Catalog.after changes).view faults updateTime →
        ∀ dataset mark, get? dataset part.watermarks = some mark →
          get? dataset whole.watermarks = some mark := by
  have showsNarrow : (scheduler.withLookback narrow).services.Shows ready view := shows
  have sameFault : view.fault? (scheduler.withLookback narrow).rules selector =
      view.fault? scheduler.rules selector := rfl
  have sameSurvey : view.survey (scheduler.withLookback narrow).rules selector =
      view.survey scheduler.rules selector := rfl
  rw [(View.run_gives shows selector priors now stage met).1,
    (View.run_gives showsNarrow selector raised later next stillMet).1, sameFault, sameSurvey]
  cases view.fault? scheduler.rules selector with
  | some fault => exact .inl ⟨fault, rfl, rfl⟩
  | none =>
    have partOf : ((view.survey scheduler.rules selector).result
        (scheduler.withLookback narrow).rules raised later).PartOf
          ((view.survey scheduler.rules selector).result scheduler.rules priors now) view := by
      refine ⟨Survey.work_of_narrower within higher passed, ?_, ?_, ?_⟩
      · intro dataset mark advances
        obtain ⟨before, known, same⟩ := Survey.get?_of_narrower within higher passed advances
        exact ⟨before, known, fun once => same (once.survey _ _)⟩
      · rw [Survey.result_failures, Survey.result_failures]
      · rw [Survey.result_tablesScanned, Survey.result_tablesScanned]
    refine .inr ⟨_, _, rfl, rfl, partOf, ?_⟩
    rintro changes faults updateTime rfl dataset mark advances
    exact partOf.get?_of_catalog advances

/-- The shop is scanned with a window. -/
def Site.shopWithin (window : Span) : Scheduler Site :=
  (Site.shopScheduler UpdateTimeSource.creationTime).withLookback { lookback := some window }

/-- One second later, after the first day of the orders and with a window of four seconds and a half,
the shop gives the second day and the customers, as it gave them before along with the first day. -/
theorem narrower_scan_of_shop :
    ∃ whole part,
      (runOn (Scan.run (Site.shopWithin ⟨5000000⟩) .everything [(⟨"sales", "orders"⟩, 500)] 5000)
        { outside := Site.shop [] }).1 = .ok whole ∧
      (runOn (Scan.run ((Site.shopWithin ⟨5000000⟩).withLookback { lookback := some ⟨4500000⟩ })
        .everything [(⟨"sales", "orders"⟩, 1000)] 6000) { outside := Site.shop [] }).1 =
          .ok part ∧
      whole.work.map (fun work => (work.table.dataset.table, work.updateTime)) =
        [("orders", 1000), ("orders", 2000), ("customers", 3000)] ∧
      part.work.map (fun work => (work.table.dataset.table, work.updateTime)) =
        [("orders", 2000), ("customers", 3000)] ∧
      part.PartOf whole (Catalog.shop.view [] UpdateTimeSource.creationTime) := by
  have shows : (Site.shopWithin ⟨5000000⟩).services.Shows (Site.OpenShop [])
      (Catalog.shop.view [] UpdateTimeSource.creationTime) :=
    Site.shopScheduler_shows [] UpdateTimeSource.creationTime
  have within : LookbackPolicy.Within { lookback := some ⟨4500000⟩ }
      (Site.shopWithin ⟨5000000⟩).rules.lookback := by
    refine ⟨?_, id⟩
    rintro _ ⟨⟩
    exact ⟨_, rfl, by decide⟩
  have higher : Watermarks.RaisedTo [(⟨"sales", "orders"⟩, 500)] [(⟨"sales", "orders"⟩, 1000)] := by
    intro dataset mark known
    obtain ⟨rfl, same⟩ := Option.ite_none_right_eq_some.mp known
    obtain rfl := Option.some.inj same
    exact ⟨1000, rfl, by decide⟩
  have works : ((runOn (Scan.run (Site.shopWithin ⟨5000000⟩) .everything
      [(⟨"sales", "orders"⟩, 500)] 5000) { outside := Site.shop [] }).1.toOption.map fun whole =>
        whole.work.map fun work => (work.table.dataset.table, work.updateTime)) =
      some [("orders", 1000), ("orders", 2000), ("customers", 3000)] := by
    decide +kernel
  have stillWorks : ((runOn (Scan.run ((Site.shopWithin ⟨5000000⟩).withLookback
      { lookback := some ⟨4500000⟩ }) .everything [(⟨"sales", "orders"⟩, 1000)] 6000)
        { outside := Site.shop [] }).1.toOption.map fun part =>
          part.work.map fun work => (work.table.dataset.table, work.updateTime)) =
      some [("orders", 2000), ("customers", 3000)] := by
    decide +kernel
  rcases narrower_scan_part shows within .everything higher (by decide : (5000 : Int) ≤ 6000)
    { outside := Site.shop [] } { outside := Site.shop [] } (Site.shop_open [])
    (Site.shop_open []) with ⟨fault, failed, -⟩ | ⟨whole, part, returned, still, partOf, -⟩
  · rw [failed] at works
    exact nomatch works
  · rw [returned] at works
    rw [still] at stillWorks
    exact ⟨whole, part, returned, still, Option.some.inj works, Option.some.inj stillWorks, partOf⟩

end CatalogDelta
