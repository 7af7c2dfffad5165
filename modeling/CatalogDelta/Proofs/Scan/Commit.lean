import CatalogDelta.Proofs.Scan.Rescan

/-!
# Scans and commits in turn

A pass scans from the watermarks as they stand, and what it returns is merged into them. Between
passes anything may change. The invariant of a run of passes is that the watermark of a dataset
reaches every update time that has been emitted for it. Main statement: later passes outdate
earlier ones, and watermarks never fall.
-/

namespace CatalogDelta

open Act OrderedMap

/-- The watermark of a dataset is at least so high. -/
def Watermarks.Reaches (marks : Watermarks) (dataset : Dataset) (time : Int) : Prop :=
  ∃ mark ∈ get? dataset marks, time ≤ mark

/-- No merge takes a watermark back. -/
theorem Watermarks.Reaches.merge {marks advanced : Watermarks} (distinct : (keys advanced).Nodup)
    {dataset : Dataset} {time : Int} (reached : marks.Reaches dataset time) :
    (Watermarks.merge marks advanced).Reaches dataset time := by
  obtain ⟨mark, found, below⟩ := reached
  unfold Reaches
  rw [get?_merge distinct, Option.mem_def.mp found]
  cases get? dataset advanced with
  | none => exact ⟨mark, rfl, below⟩
  | some candidate => exact ⟨max mark candidate, rfl, Int.le_trans below (Int.le_max_left ..)⟩

/-- What is new after a watermark comes after all that the watermark reaches. -/
theorem Watermarks.Reaches.outdated {marks : Watermarks} {dataset : Dataset} {time : Int}
    (reached : marks.Reaches dataset time) {rules : ScanRules} {updateTime : Int}
    (new : rules.isNew updateTime (get? dataset marks) = true) :
    if rules.strict = true then time < updateTime else time ≤ updateTime := by
  obtain ⟨mark, found, below⟩ := reached
  rw [Option.mem_def.mp found] at new
  split
  · rename_i strict
    exact Int.lt_of_le_of_lt below ((ScanRules.isNew_some_of_strict strict ..).mp new)
  · exact Int.le_trans below (ScanRules.le_of_isNew new)

theorem Survey.exists_admitted_of_mem_work {survey : Survey} {rules : ScanRules}
    {priors : Watermarks} {now : Int} {work : Work}
    (member : work ∈ (survey.result rules priors now).work) :
    ∃ seen ∈ survey.tables, ∃ sighting ∈ seen.admitted rules (get? seen.table.dataset priors) now,
      sighting.work seen.table = work := by
  rw [result_work] at member
  obtain ⟨seen, found, inside⟩ := List.mem_flatMap.mp member
  obtain ⟨sighting, admitted, rfl⟩ := List.mem_map.mp inside
  exact ⟨seen, found, sighting, admitted, rfl⟩

theorem TableSurvey.next_reaches {survey : TableSurvey} {rules : ScanRules} {prior : Option Int}
    {now : Int} {sighting : Sighting} (admitted : sighting ∈ survey.admitted rules prior now) :
    ∃ mark ∈ survey.next rules prior now, sighting.updateTime ≤ mark := by
  have offered : sighting.updateTime ∈ (survey.admitted rules prior now).map (·.updateTime) :=
    List.mem_map_of_mem admitted
  obtain ⟨latest, known⟩ := Option.isSome_iff_exists.mp (List.isSome_max?_of_mem offered)
  have below : sighting.updateTime ≤ latest :=
    (List.max?_eq_some_iff.mp known).2 _ offered
  rw [next_eq, Sighting.latest?, known]
  cases prior with
  | none => exact ⟨latest, rfl, below⟩
  | some mark => exact ⟨max mark latest, rfl, Int.le_trans below (Int.le_max_right ..)⟩

theorem Survey.isNew_of_mem_work {survey : Survey} {rules : ScanRules} {priors : Watermarks}
    {now : Int} {work : Work} (member : work ∈ (survey.result rules priors now).work) :
    rules.isNew work.updateTime (get? work.dataset priors) = true := by
  obtain ⟨seen, _, sighting, admitted, rfl⟩ := exists_admitted_of_mem_work member
  have fits := (List.mem_filter.mp admitted).2
  exact ((ScanRules.admits_eq_true_iff ..).mp fits).2

theorem Survey.reaches_of_mem_work {survey : Survey} {rules : ScanRules} {priors : Watermarks}
    {now : Int} (once : (survey.tables.map (·.table.dataset)).Nodup) {work : Work}
    (member : work ∈ (survey.result rules priors now).work) :
    (Watermarks.merge priors (survey.result rules priors now).watermarks).Reaches work.dataset
      work.updateTime := by
  obtain ⟨seen, found, sighting, admitted, rfl⟩ := exists_admitted_of_mem_work member
  obtain ⟨mark, next, below⟩ := TableSurvey.next_reaches admitted
  rw [← get?_merge_of_mem rules priors now once found] at next
  exact ⟨mark, next, below⟩

/-- One scan among others: what it is run with, and a catalog that lists no dataset twice. -/
structure Pass (σ : Type) where
  scheduler : Scheduler σ
  selector : Selector
  now : Int
  stage : Stage σ
  ready : σ → Prop
  view : View
  shows : scheduler.services.Shows ready view
  met : ready stage.outside
  once : view.ListsOnce

namespace Pass

variable {σ : Type} (pass : Pass σ) (marks : Watermarks)

def outcome : Except Fault ScanResult :=
  (runOn (Scan.run pass.scheduler pass.selector marks pass.now) pass.stage).1

/-- The work that a pass emits; none if the scan fails. -/
def emitted : List Work :=
  match pass.outcome marks with
  | .ok result => result.work
  | .error _ => []

/-- The watermarks after a pass; a scan that fails leaves them alone. -/
def committed : Watermarks :=
  match pass.outcome marks with
  | .ok result => marks.merge result.watermarks
  | .error _ => marks

/-- A later pass outdates an earlier one: of each dataset it emits later updates only, or none that
are earlier if it is not strict. -/
def Outdates (earlier later : Pass σ × List Work) : Prop :=
  ∀ work ∈ earlier.2, ∀ next ∈ later.2, next.dataset = work.dataset →
    if later.1.scheduler.rules.strict = true then work.updateTime < next.updateTime
    else work.updateTime ≤ next.updateTime

variable {pass : Pass σ} {marks : Watermarks}

theorem outcome_eq : pass.outcome marks =
    verdict (pass.view.fault? pass.scheduler.rules pass.selector)
      ((pass.view.survey pass.scheduler.rules pass.selector).result pass.scheduler.rules marks
        pass.now) :=
  (View.run_gives pass.shows pass.selector marks pass.now pass.stage pass.met).1

/-- What a pass emits is new, and the watermark then reaches it. -/
theorem emitted_step {work : Work} (member : work ∈ pass.emitted marks) :
    pass.scheduler.rules.isNew work.updateTime (get? work.dataset marks) = true ∧
      (pass.committed marks).Reaches work.dataset work.updateTime := by
  unfold emitted at member
  unfold committed
  rw [outcome_eq] at member ⊢
  cases stopped : pass.view.fault? pass.scheduler.rules pass.selector with
  | some fault =>
    simp only [stopped, verdict_some] at member
    exact absurd member List.not_mem_nil
  | none =>
    simp only [stopped, verdict_none] at member ⊢
    exact ⟨Survey.isNew_of_mem_work member,
      Survey.reaches_of_mem_work (pass.once.survey _ _) member⟩

/-- The invariant of a run: what a watermark reaches it goes on to reach. -/
theorem reaches_committed {dataset : Dataset} {time : Int} (reached : marks.Reaches dataset time) :
    (pass.committed marks).Reaches dataset time := by
  unfold committed
  rw [outcome_eq]
  cases pass.view.fault? pass.scheduler.rules pass.selector with
  | some fault => exact reached
  | none => exact reached.merge (Survey.nodup_keys_result ..)

end Pass

section Run

variable {σ : Type}

/-- The watermarks after some passes, one after the other. -/
def marksAfter (marks : Watermarks) (passes : List (Pass σ)) : Watermarks :=
  passes.foldl (fun marks pass => pass.committed marks) marks

/-- What each of some passes emits, from the watermarks that the passes before it have left. -/
def emissions (marks : Watermarks) : List (Pass σ) → List (Pass σ × List Work)
  | [] => []
  | pass :: others => (pass, pass.emitted marks) :: emissions (pass.committed marks) others

theorem reaches_marksAfter {marks : Watermarks} {dataset : Dataset} {time : Int}
    (reached : marks.Reaches dataset time) (passes : List (Pass σ)) :
    (marksAfter marks passes).Reaches dataset time := by
  induction passes generalizing marks with
  | nil => exact reached
  | cons pass others ih => exact ih (Pass.reaches_committed reached)

/-- All that is emitted after a watermark comes after what the watermark reaches. -/
theorem emissions_outdate {marks : Watermarks} {dataset : Dataset} {time : Int}
    (reached : marks.Reaches dataset time) {passes : List (Pass σ)} {emission : Pass σ × List Work}
    (later : emission ∈ emissions marks passes) {work : Work} (member : work ∈ emission.2)
    (same : work.dataset = dataset) :
    if emission.1.scheduler.rules.strict = true then time < work.updateTime
    else time ≤ work.updateTime := by
  -- Every pass in between keeps what the watermark reaches.
  induction passes generalizing marks with
  | nil => exact absurd later List.not_mem_nil
  | cons pass others ih =>
    rcases List.mem_cons.mp later with rfl | later
    · subst same
      exact reached.outdated (Pass.emitted_step member).1
    · exact ih (Pass.reaches_committed reached) later

theorem emissions_pairwise (marks : Watermarks) (passes : List (Pass σ)) :
    (emissions marks passes).Pairwise Pass.Outdates := by
  induction passes generalizing marks with
  | nil => exact List.Pairwise.nil
  | cons pass others ih =>
    refine List.pairwise_cons.mpr ⟨fun emission later => ?_, ih _⟩
    intro work member next again same
    exact emissions_outdate (Pass.emitted_step member).2 later again same

theorem reaches_emissions {marks : Watermarks} {passes : List (Pass σ)}
    {emission : Pass σ × List Work} (made : emission ∈ emissions marks passes) {work : Work}
    (member : work ∈ emission.2) :
    (marksAfter marks passes).Reaches work.dataset work.updateTime := by
  induction passes generalizing marks with
  | nil => exact absurd made List.not_mem_nil
  | cons pass others ih =>
    rcases List.mem_cons.mp made with rfl | later
    · exact reaches_marksAfter (Pass.emitted_step member).2 others
    · exact ih later

/-- **Later passes outdate earlier ones.** Whatever changes between passes, what a strict pass emits
for a dataset comes after all that earlier passes have emitted for it, and no such update of an
entity is emitted again; a pass that is not strict emits nothing earlier. Watermarks never fall, and
they reach every update time that has been emitted. -/
theorem passes_outdate (marks : Watermarks) (passes : List (Pass σ)) :
    (emissions marks passes).Pairwise Pass.Outdates ∧
    (emissions marks passes).Pairwise (fun earlier later =>
      later.1.scheduler.rules.strict = true → ∀ work ∈ earlier.2, ∀ next ∈ later.2,
        (next.dataset, next.partition, next.updateTime) ≠
          (work.dataset, work.partition, work.updateTime)) ∧
    (∀ earlier later, passes = earlier ++ later → ∀ dataset,
      ∀ mark ∈ get? dataset (marksAfter marks earlier),
        (marksAfter marks passes).Reaches dataset mark) ∧
    ∀ emission ∈ emissions marks passes, ∀ work ∈ emission.2,
      (marksAfter marks passes).Reaches work.dataset work.updateTime := by
  refine ⟨emissions_pairwise marks passes, ?_, ?_, ?_⟩
  · refine (emissions_pairwise marks passes).imp fun outdates strict work member next again => ?_
    intro equal
    simp only [Prod.mk.injEq] at equal
    have above := outdates work member next again equal.1
    rw [if_pos strict, equal.2.2] at above
    exact Int.lt_irrefl _ above
  · rintro earlier later rfl dataset mark found
    rw [marksAfter, List.foldl_append]
    exact reaches_marksAfter ⟨mark, found, Int.le_refl mark⟩ later
  · exact fun emission made work member => reaches_emissions made member

def Site.shopPass (updateTime : Entity → Except Fault Int) (now : Int) : Pass Site where
  scheduler := shopScheduler updateTime
  selector := .everything
  now
  stage := { outside := shop [] }
  ready := OpenShop []
  view := Catalog.shop.view [] updateTime
  shows := shopScheduler_shows [] updateTime
  met := shop_open []
  once := shop_listsOnce updateTime

/-- The shop after the orders of one day have been written again. -/
def Site.reordered (entity : Entity) : Except Fault Int :=
  if entity.describe = "sales@orders/tue" then .ok 6000 else UpdateTimeSource.creationTime entity

/-- Two passes over the shop: the second one emits nothing but the orders that have changed. -/
theorem passes_of_shop :
    (emissions [] [Site.shopPass UpdateTimeSource.creationTime 5000,
        Site.shopPass Site.reordered 9000]).map
          (fun emission => emission.2.map fun work => (work.table.dataset.table, work.updateTime)) =
      [[("orders", 1000), ("orders", 2000), ("customers", 3000)], [("orders", 6000)]] ∧
    (emissions [] [Site.shopPass UpdateTimeSource.creationTime 5000,
        Site.shopPass Site.reordered 9000]).Pairwise Pass.Outdates := by
  refine ⟨?_, (passes_outdate ..).1⟩
  simp only [emissions, Pass.emitted, Pass.committed, Pass.outcome_eq]
  decide +kernel

end Run
end CatalogDelta
