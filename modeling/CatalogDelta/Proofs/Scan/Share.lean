import CatalogDelta.Proofs.Scan.Loss

/-!
# The share of a dataset

On a catalog that lists each dataset at most once, the work of a scan for one dataset is the work of
its table, and the watermark is that of its table.
-/

namespace CatalogDelta

open OrderedMap

section Lists

variable {α β κ : Type} [DecidableEq κ] {members : List α} {key : α → κ} {give : α → List β}
  {label : β → κ}

/-- What carries a label that no member has is given by none. -/
theorem filter_flatMap_of_notMem (labelled : ∀ member ∈ members, ∀ given ∈ give member,
    label given = key member) {wanted : κ} (absent : wanted ∉ members.map key) :
    ((members.flatMap give).filter fun given => label given = wanted) = [] := by
  apply List.filter_eq_nil_iff.mpr
  intro given inside carried
  obtain ⟨member, listed, inside⟩ := List.mem_flatMap.mp inside
  apply absent
  rw [← of_decide_eq_true carried, labelled member listed given inside]
  exact List.mem_map_of_mem listed

/-- If no two members have the same label, what carries the label of a member is what it gives. -/
theorem filter_flatMap_of_mem (distinct : (members.map key).Nodup)
    (labelled : ∀ member ∈ members, ∀ given ∈ give member, label given = key member)
    {member : α} (listed : member ∈ members) :
    ((members.flatMap give).filter fun given => label given = key member) = give member := by
  induction members with
  | nil => exact absurd listed List.not_mem_nil
  | cons first others ih =>
    obtain ⟨absent, distinct⟩ := List.nodup_cons.mp distinct
    have labelledOthers := fun other inside => labelled other (List.mem_cons_of_mem first inside)
    rw [List.flatMap_cons, List.filter_append]
    rcases List.mem_cons.mp listed with rfl | later
    · rw [filter_flatMap_of_notMem labelledOthers absent, List.append_nil]
      apply List.filter_eq_self.mpr
      intro given inside
      exact decide_eq_true (labelled member List.mem_cons_self given inside)
    · have different : key first ≠ key member := fun same =>
        absent (same ▸ List.mem_map_of_mem later)
      have foreign : ((give first).filter fun given => label given = key member) = [] := by
        apply List.filter_eq_nil_iff.mpr
        intro given inside carried
        rw [labelled first List.mem_cons_self given inside] at carried
        exact different (of_decide_eq_true carried)
      rw [foreign, List.nil_append]
      exact ih distinct labelledOthers later

end Lists

namespace Survey

variable {survey : Survey} (rules : ScanRules) (priors : Watermarks) (now : Int)

theorem workFor_dataset {seen : TableSurvey} {sightings : List Sighting} {work : Work}
    (inside : work ∈ sightings.map (Sighting.work seen.table)) :
    work.dataset = seen.table.dataset := by
  obtain ⟨sighting, _, rfl⟩ := List.mem_map.mp inside
  rfl

/-- The work for a dataset is what is admitted of its table. -/
theorem result_workFor_of_mem (once : (survey.tables.map (·.table.dataset)).Nodup)
    {seen : TableSurvey} (member : seen ∈ survey.tables) :
    ((survey.result rules priors now).work.filter fun work =>
        work.dataset = seen.table.dataset) =
      (seen.admitted rules (get? seen.table.dataset priors) now).map
        (Sighting.work seen.table) := by
  rw [result_work]
  exact filter_flatMap_of_mem once (fun _ _ _ inside => workFor_dataset inside) member

theorem result_workFor_of_notMem {dataset : Dataset}
    (other : dataset ∉ survey.tables.map (·.table.dataset)) :
    ((survey.result rules priors now).work.filter fun work => work.dataset = dataset) = [] := by
  rw [result_work]
  exact filter_flatMap_of_notMem (fun _ _ _ inside => workFor_dataset inside) other

/-- The latest update time of the work for a dataset is the latest admitted for its table. -/
theorem latestFor_result_of_mem (once : (survey.tables.map (·.table.dataset)).Nodup)
    {seen : TableSurvey} (member : seen ∈ survey.tables) :
    (survey.result rules priors now).latestFor seen.table.dataset =
      Sighting.latest? (seen.admitted rules (get? seen.table.dataset priors) now) := by
  rw [ScanResult.latestFor, result_workFor_of_mem rules priors now once member, List.map_map]
  rfl

theorem latestFor_result_of_notMem {dataset : Dataset}
    (other : dataset ∉ survey.tables.map (·.table.dataset)) :
    (survey.result rules priors now).latestFor dataset = none := by
  rw [ScanResult.latestFor, result_workFor_of_notMem rules priors now other]
  rfl

end Survey
end CatalogDelta
