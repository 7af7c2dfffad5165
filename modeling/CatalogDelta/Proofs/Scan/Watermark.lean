import CatalogDelta.Proofs.Scan.Admission
import CatalogDelta.Proofs.Scan.Survey

/-!
# Watermarks after a scan

The outcome of a table raises the watermark of its dataset to the latest admitted update time, by
the rule for whole tables as well as by the rule for partitions. Main statement: what is new after
the merge is what was new before it and comes after every admitted update
(`TableSurvey.isNew_next`).
-/

namespace CatalogDelta

open OrderedMap Watermarks

namespace ScanResult

@[simp] theorem add_watermarks (result : ScanResult) (table : Table) (outcome : TableOutcome) :
    (result.add table outcome).watermarks =
      match outcome.watermark with
      | none => result.watermarks
      | some watermark => put table.dataset watermark result.watermarks := rfl

theorem get?_add (result : ScanResult) (table : Table) (outcome : TableOutcome)
    (dataset : Dataset) :
    get? dataset (result.add table outcome).watermarks =
      if table.dataset = dataset then outcome.watermark.or (get? dataset result.watermarks)
      else get? dataset result.watermarks := by
  rw [add_watermarks]
  cases outcome.watermark with
  | none => simp
  | some watermark => simp

theorem nodup_keys_addAll {result : ScanResult} (distinct : (keys result.watermarks).Nodup)
    (outcomes : List (Table × TableOutcome)) :
    (keys (result.addAll outcomes).watermarks).Nodup := by
  induction outcomes generalizing result with
  | nil => exact distinct
  | cons outcome others ih =>
    apply ih
    rw [add_watermarks]
    cases outcome.2.watermark with
    | none => exact distinct
    | some watermark => exact nodup_keys_put distinct _ _

theorem get?_addAll_of_notMem {outcomes : List (Table × TableOutcome)} {dataset : Dataset}
    (other : dataset ∉ outcomes.map (·.1.dataset)) (result : ScanResult) :
    get? dataset (result.addAll outcomes).watermarks = get? dataset result.watermarks := by
  induction outcomes generalizing result with
  | nil => rfl
  | cons outcome others ih =>
    obtain ⟨first, rest⟩ := not_or.mp (List.mem_cons.not.mp other)
    rw [addAll, ih rest, get?_add, if_neg (fun same => first same.symm)]

/-- A dataset that is scanned once has the watermark of its outcome. -/
theorem get?_addAll_of_mem {outcomes : List (Table × TableOutcome)}
    (once : (outcomes.map (·.1.dataset)).Nodup) {table : Table} {outcome : TableOutcome}
    (member : (table, outcome) ∈ outcomes) {result : ScanResult}
    (fresh : get? table.dataset result.watermarks = none) :
    get? table.dataset (result.addAll outcomes).watermarks = outcome.watermark := by
  induction outcomes generalizing result with
  | nil => exact absurd member List.not_mem_nil
  | cons first others ih =>
    obtain ⟨absent, once⟩ := List.nodup_cons.mp once
    rw [addAll]
    rcases List.mem_cons.mp member with rfl | later
    · rw [get?_addAll_of_notMem absent, get?_add, if_pos rfl, fresh, Option.or_none]
    · have different : first.1.dataset ≠ table.dataset := fun same =>
        absent (List.mem_map.mpr ⟨(table, outcome), later, same.symm⟩)
      apply ih once later
      rw [get?_add, if_neg different, fresh]

end ScanResult

/-- An update is new after the latest of some sightings if it is new after each of them. -/
theorem ScanRules.isNew_latest? (rules : ScanRules) (updateTime : Int)
    (sightings : List Sighting) :
    rules.isNew updateTime (Sighting.latest? sightings) = true ↔
      ∀ sighting ∈ sightings, rules.isNew updateTime (some sighting.updateTime) = true := by
  have spread : rules.isNew updateTime (Sighting.latest? sightings) =
      sightings.all fun sighting => rules.isNew updateTime (some sighting.updateTime) := by
    unfold Sighting.latest?
    induction sightings with
    | nil => rfl
    | cons sighting others ih =>
      rw [List.map_cons, List.max?_cons, List.all_cons, ← ih, ← rules.isNew_larger]
      cases (others.map (·.updateTime)).max? <;> rfl
  rw [spread, List.all_eq_true]

namespace TableSurvey

variable (survey : TableSurvey) (rules : ScanRules) (prior : Option Int) (now : Int)

/-- The watermark of a dataset after the outcome of its table has been merged. -/
def next : Option Int := larger prior (survey.watermark rules prior now)

/-- Whole tables and partitions raise a watermark alike: to the latest admitted update time. -/
theorem next_eq : survey.next rules prior now =
    larger prior (Sighting.latest? (survey.admitted rules prior now)) := by
  unfold next watermark
  cases survey.table.isPartitioned with
  | false => rfl
  | true =>
    cases Sighting.latest? (survey.admitted rules prior now) with
    | none => rfl
    | some latest =>
      cases prior with
      | none => rfl
      | some mark =>
        simp only [↓reduceIte, TableOutcome.advanced]
        by_cases above : mark < latest
        · simp only [above, ↓reduceIte]
        · simp only [above, ↓reduceIte, larger, Option.merge_none_right, Option.merge_some_some]
          rw [Int.max_eq_left (Int.not_lt.mp above)]

/-- **What is new after a merge.** An update is new after the merge if it was new before it and is
new after every update that has been admitted. -/
theorem isNew_next (updateTime : Int) :
    rules.isNew updateTime (survey.next rules prior now) = true ↔
      rules.isNew updateTime prior = true ∧
        ∀ sighting ∈ survey.admitted rules prior now,
          rules.isNew updateTime (some sighting.updateTime) = true := by
  rw [next_eq, rules.isNew_larger, Bool.and_eq_true, rules.isNew_latest?]

end TableSurvey

namespace Survey

variable {survey : Survey} (rules : ScanRules) (priors : Watermarks) (now : Int)

theorem nodup_keys_result : (keys (survey.result rules priors now).watermarks).Nodup := by
  rw [result, ScanResult.ofOutcomes_eq_addAll]
  apply ScanResult.nodup_keys_addAll
  exact List.nodup_nil

theorem get?_result_of_mem (once : (survey.tables.map (·.table.dataset)).Nodup)
    {seen : TableSurvey} (member : seen ∈ survey.tables) :
    get? seen.table.dataset (survey.result rules priors now).watermarks =
      seen.watermark rules (get? seen.table.dataset priors) now := by
  have paired : (seen.table, seen.outcome rules (get? seen.table.dataset priors) now) ∈
      survey.tables.map fun seen =>
        (seen.table, seen.outcome rules (get? seen.table.dataset priors) now) :=
    List.mem_map_of_mem member
  rw [result, ScanResult.ofOutcomes_eq_addAll]
  refine ScanResult.get?_addAll_of_mem ?_ paired rfl
  rw [List.map_map]
  exact once

theorem get?_result_of_notMem {dataset : Dataset}
    (other : dataset ∉ survey.tables.map (·.table.dataset)) :
    get? dataset (survey.result rules priors now).watermarks = none := by
  rw [result, ScanResult.ofOutcomes_eq_addAll]
  refine ScanResult.get?_addAll_of_notMem ?_ _
  rw [List.map_map]
  exact other

/-- The watermark of a dataset after a scan of its table has been merged. -/
theorem get?_merge_of_mem (once : (survey.tables.map (·.table.dataset)).Nodup)
    {seen : TableSurvey} (member : seen ∈ survey.tables) :
    get? seen.table.dataset (merge priors (survey.result rules priors now).watermarks) =
      seen.next rules (get? seen.table.dataset priors) now := by
  rw [get?_merge (nodup_keys_result rules priors now),
    get?_result_of_mem rules priors now once member]
  rfl

theorem get?_merge_of_notMem {dataset : Dataset}
    (other : dataset ∉ survey.tables.map (·.table.dataset)) :
    get? dataset (merge priors (survey.result rules priors now).watermarks) =
      get? dataset priors := by
  rw [get?_merge (nodup_keys_result rules priors now),
    get?_result_of_notMem rules priors now other]
  exact Option.merge_none_right

end Survey
end CatalogDelta
