import CatalogDelta.Scan.Result
import CatalogDelta.Scan.Admission

/-!
# Surveys

A survey holds what a scan sees before anything is admitted: the known update times of the entities
of each table, and what failed. The outcome of a table, and the result of a scan, are computed from
the survey by the rules of admission alone.
-/

namespace CatalogDelta

/-- Offering values to an empty running maximum leaves the largest of them. -/
theorem RunningMax.offerAll_value (values : List Int) :
    (({} : RunningMax).offerAll values).value = values.max? := by
  have fromValue (current : Int) (others : List Int) :
      ((⟨some current⟩ : RunningMax).offerAll others).value = some (others.foldl max current) := by
    induction others generalizing current with
    | nil => rfl
    | cons value others ih =>
      have offered : (⟨some current⟩ : RunningMax).offer value = ⟨some (max current value)⟩ := by
        by_cases larger : current < value
        · simp only [offer, larger, ↓reduceIte]
          rw [Int.max_eq_right (Int.le_of_lt larger)]
        · simp only [offer, larger, ↓reduceIte]
          rw [Int.max_eq_left (Int.not_lt.mp larger)]
      have step := ih (max current value)
      rw [← offered] at step
      exact step
  cases values with
  | nil => rfl
  | cons value others => exact fromValue value others

def Entity.partition? : Entity → Option Partition
  | .table _ => none
  | .partition handle => some handle

/-- An entity with its update time. -/
structure Sighting where
  entity : Entity
  updateTime : Int

def Sighting.work (table : Table) (sighting : Sighting) : Work :=
  { dataset := table.dataset, table, updateTime := sighting.updateTime
    partition := sighting.entity.partition? }

def Sighting.latest? (sightings : List Sighting) : Option Int :=
  (sightings.map (·.updateTime)).max?

/-- What a scan sees of a table. -/
structure TableSurvey where
  table : Table
  /-- The entities with a known update time, in the order of the catalog. -/
  sightings : List Sighting := []
  failures : List ScanFailure := []

namespace TableSurvey

/-- The sightings that the rules admit after a watermark at a given time. -/
def admitted (survey : TableSurvey) (rules : ScanRules) (prior : Option Int) (now : Int) :
    List Sighting :=
  survey.sightings.filter fun sighting => rules.admits sighting.updateTime prior now

/-- The watermark to which a table advances, if it does. -/
def watermark (survey : TableSurvey) (rules : ScanRules) (prior : Option Int) (now : Int) :
    Option Int :=
  let latest := Sighting.latest? (survey.admitted rules prior now)
  if survey.table.isPartitioned then TableOutcome.advanced prior latest else latest

def outcome (survey : TableSurvey) (rules : ScanRules) (prior : Option Int) (now : Int) :
    TableOutcome :=
  { work := (survey.admitted rules prior now).map (Sighting.work survey.table)
    watermark := survey.watermark rules prior now
    failures := survey.failures }

end TableSurvey

/-- What a scan sees of a catalog. -/
structure Survey where
  /-- What cannot be listed above the tables. -/
  failures : List ScanFailure := []
  tables : List TableSurvey := []

def Survey.result (survey : Survey) (rules : ScanRules) (priors : Watermarks) (now : Int) :
    ScanResult :=
  .ofOutcomes survey.failures (survey.tables.map fun seen =>
    (seen.table, seen.outcome rules (OrderedMap.get? seen.table.dataset priors) now))

namespace ScanResult

@[simp] theorem add_work (result : ScanResult) (table : Table) (outcome : TableOutcome) :
    (result.add table outcome).work = result.work ++ outcome.work := rfl

@[simp] theorem add_failures (result : ScanResult) (table : Table) (outcome : TableOutcome) :
    (result.add table outcome).failures = result.failures ++ outcome.failures := rfl

@[simp] theorem add_tablesScanned (result : ScanResult) (table : Table) (outcome : TableOutcome) :
    (result.add table outcome).tablesScanned = result.tablesScanned + 1 := rfl

def addAll (result : ScanResult) : List (Table × TableOutcome) → ScanResult
  | [] => result
  | (table, outcome) :: others => (result.add table outcome).addAll others

theorem ofOutcomes_eq_addAll (failures : List ScanFailure)
    (outcomes : List (Table × TableOutcome)) :
    ofOutcomes failures outcomes = addAll { failures } outcomes := by
  have folded (result : ScanResult) :
      outcomes.foldl (fun result outcome => result.add outcome.1 outcome.2) result =
        result.addAll outcomes := by
    induction outcomes generalizing result with
    | nil => rfl
    | cons outcome others ih => exact ih _
  exact folded _

theorem addAll_work (result : ScanResult) (outcomes : List (Table × TableOutcome)) :
    (result.addAll outcomes).work = result.work ++ outcomes.flatMap (·.2.work) := by
  induction outcomes generalizing result with
  | nil => simp [addAll]
  | cons outcome others ih => simp [addAll, ih]

theorem addAll_failures (result : ScanResult) (outcomes : List (Table × TableOutcome)) :
    (result.addAll outcomes).failures = result.failures ++ outcomes.flatMap (·.2.failures) := by
  induction outcomes generalizing result with
  | nil => simp [addAll]
  | cons outcome others ih => simp [addAll, ih]

theorem addAll_tablesScanned (result : ScanResult) (outcomes : List (Table × TableOutcome)) :
    (result.addAll outcomes).tablesScanned = result.tablesScanned + outcomes.length := by
  induction outcomes generalizing result with
  | nil => rfl
  | cons outcome others ih =>
    rw [addAll, ih, add_tablesScanned, List.length_cons]
    omega

end ScanResult

namespace Survey

variable (survey : Survey) (rules : ScanRules) (priors : Watermarks) (now : Int)

/-- The work of a scan is that of its tables, one table after the other. -/
theorem result_work :
    (survey.result rules priors now).work =
      survey.tables.flatMap fun seen =>
        (seen.admitted rules (OrderedMap.get? seen.table.dataset priors) now).map
          (Sighting.work seen.table) := by
  rw [result, ScanResult.ofOutcomes_eq_addAll, ScanResult.addAll_work, List.flatMap_map,
    List.nil_append]
  rfl

/-- The failures of a scan depend on nothing but what is seen. -/
theorem result_failures :
    (survey.result rules priors now).failures =
      survey.failures ++ survey.tables.flatMap (·.failures) := by
  rw [result, ScanResult.ofOutcomes_eq_addAll, ScanResult.addAll_failures, List.flatMap_map]
  rfl

theorem result_tablesScanned :
    (survey.result rules priors now).tablesScanned = survey.tables.length := by
  rw [result, ScanResult.ofOutcomes_eq_addAll, ScanResult.addAll_tablesScanned, List.length_map]
  exact Nat.zero_add _

end Survey
end CatalogDelta
