import CatalogDelta.Proofs.Act.Gives
import CatalogDelta.Proofs.Watermark.Basic
import CatalogDelta.Scan.Result
import Mathlib

/-!
# Merging as a join

Let a dataset without a watermark stand below every watermark. Then merging is the join of watermarks
taken dataset by dataset, so that it does not matter in which order candidates are merged, nor how
often. A candidate below the watermark that is there is dropped, and this is said once. Main
statement: `merge_is_join`.
-/

namespace CatalogDelta.Watermarks

open Act OrderedMap

variable {σ : Type} {prior advanced : Watermarks}

/-- The watermark of each dataset; a dataset without one is at the bottom. -/
def level (watermarks : Watermarks) (dataset : Dataset) : WithBot ℤ := get? dataset watermarks

theorem level_ne_bot_iff {watermarks : Watermarks} {dataset : Dataset} :
    level watermarks dataset ≠ ⊥ ↔ dataset ∈ keys watermarks :=
  get?_eq_none_iff.not_left

/-! ## The join -/

/-- The larger of two watermarks is their join. -/
theorem larger_eq_sup (first second : WithBot ℤ) : larger first second = first ⊔ second := by
  cases first with
  | bot =>
    rw [bot_sup_eq]
    cases second <;> rfl
  | coe first =>
    cases second with
    | bot => rw [sup_bot_eq]; rfl
    | coe second => rw [← WithBot.coe_sup]; rfl

theorem level_merge (distinct : (keys advanced).Nodup) :
    level (merge prior advanced) = level prior ⊔ level advanced := by
  funext dataset
  exact (get?_merge distinct dataset).trans (larger_eq_sup _ _)

/-- The state after the watermarks of results have been merged into it one after the other. -/
def committed (state : Watermarks) (results : List ScanResult) : Watermarks :=
  results.foldl (fun marks result => merge marks result.watermarks) state

/-- What bounds a state and some results bounds what comes of committing them, and nothing else
does. -/
theorem level_committed_le_iff {state : Watermarks} {results : List ScanResult}
    (distinct : ∀ result ∈ results, (keys result.watermarks).Nodup)
    {bound : Dataset → WithBot ℤ} :
    level (committed state results) ≤ bound ↔
      level state ≤ bound ∧ ∀ result ∈ results, level result.watermarks ≤ bound := by
  induction results generalizing state with
  | nil => exact (and_iff_left fun _ member => absurd member List.not_mem_nil).symm
  | cons result others ih =>
    obtain ⟨own, rest⟩ := List.forall_mem_cons.mp distinct
    change level (committed (merge state result.watermarks) others) ≤ bound ↔ _
    rw [ih rest, level_merge own, sup_le_iff, List.forall_mem_cons, and_assoc]

/-- **Neither the order of commits nor their repetition matters.** -/
theorem level_committed_eq {state : Watermarks} {results others : List ScanResult}
    (distinct : ∀ result ∈ results, (keys result.watermarks).Nodup)
    (same : ∀ result, result ∈ others ↔ result ∈ results) :
    level (committed state others) = level (committed state results) := by
  have distinctToo : ∀ result ∈ others, (keys result.watermarks).Nodup :=
    fun result member => distinct result ((same result).mp member)
  refine eq_of_forall_ge_iff fun bound => ?_
  rw [level_committed_le_iff distinctToo, level_committed_le_iff distinct]
  simp only [same]

/-! ## Regressions -/

/-- The regression that a candidate is, if it is below the watermark that is there. -/
def regression? (prior : Watermarks) : Dataset × Int → Option (Dataset × Int × Int)
  | (dataset, candidate) =>
    (get? dataset prior).bind fun current =>
      if candidate < current then some (dataset, candidate, current) else none

theorem regression?_eq_some_iff {entry : Dataset × Int} {dataset : Dataset}
    {candidate current : Int} :
    regression? prior entry = some (dataset, candidate, current) ↔
      entry = (dataset, candidate) ∧ get? dataset prior = some current ∧ candidate < current := by
  obtain ⟨first, offered⟩ := entry
  rw [regression?, Option.bind_eq_some_iff]
  constructor
  · rintro ⟨held, found, told⟩
    obtain ⟨below, whole⟩ := Option.ite_none_right_eq_some.mp told
    cases whole
    exact ⟨rfl, found, below⟩
  · rintro ⟨whole, found, below⟩
    cases whole
    exact ⟨current, found, if_pos below⟩

/-- What is merged first says nothing of other datasets. -/
theorem regressions_eq (distinct : (keys advanced).Nodup) :
    regressions prior advanced = advanced.filterMap (regression? prior) := by
  induction advanced generalizing prior with
  | nil => rfl
  | cons entry others ih =>
    obtain ⟨first, offered⟩ := entry
    obtain ⟨absent, distinct⟩ := List.nodup_cons.mp distinct
    have apart : others.filterMap (regression? (mergeOne prior first offered)) =
        others.filterMap (regression? prior) := by
      refine List.filterMap_congr fun other member => ?_
      have different : first ≠ other.1 := fun same =>
        absent (List.mem_map.mpr ⟨other, member, same.symm⟩)
      rw [regression?, regression?, get?_mergeOne, if_neg different]
    rw [regressions, ih distinct, apart, List.filterMap_cons, regression?]
    cases get? first prior with
    | none => rfl
    | some held =>
      by_cases below : offered < held
      · simp only [below, ↓reduceIte, Option.bind_some]
      · simp only [below, ↓reduceIte, Option.bind_some]

/-- A regression is told of each dataset whose candidate is below its watermark. -/
theorem mem_regressions_iff (distinct : (keys advanced).Nodup) {dataset : Dataset}
    {candidate current : Int} :
    (dataset, candidate, current) ∈ regressions prior advanced ↔
      get? dataset advanced = some candidate ∧ get? dataset prior = some current ∧
        candidate < current := by
  rw [regressions_eq distinct, List.mem_filterMap, get?_eq_some_iff distinct]
  constructor
  · rintro ⟨entry, member, told⟩
    obtain ⟨rfl, found, below⟩ := regression?_eq_some_iff.mp told
    exact ⟨member, found, below⟩
  · rintro ⟨member, found, below⟩
    exact ⟨_, member, regression?_eq_some_iff.mpr ⟨rfl, found, below⟩⟩

/-- No dataset is told of twice. -/
theorem nodup_regressions (distinct : (keys advanced).Nodup) :
    ((regressions prior advanced).map (·.1)).Nodup := by
  have within : ((regressions prior advanced).map (·.1)).Sublist (keys advanced) := by
    clear distinct
    induction advanced generalizing prior with
    | nil => exact List.Sublist.slnil
    | cons entry others ih =>
      rw [regressions]
      split
      · exact ih.cons _
      · split
        · exact ih.cons_cons _
        · exact ih.cons _
  exact distinct.sublist within

/-- What is written of a regression. -/
def regressionEntry : Dataset × Int × Int → Entry
  | (dataset, candidate, current) =>
    ⟨Level.warning, Author.watermark, regressionText dataset candidate current, []⟩

theorem runOn_mergeNoted (prior advanced : Watermarks) (stage : Stage σ) :
    runOn (mergeNoted prior advanced) stage = (.ok (merge prior advanced),
      { stage with
        journal := stage.journal ++ (regressions prior advanced).map regressionEntry }) := by
  unfold mergeNoted
  generalize regressions prior advanced = found
  induction found generalizing stage with
  | nil =>
    rw [List.map_nil, List.append_nil]
    rfl
  | cons regression others ih =>
    obtain ⟨dataset, candidate, current⟩ := regression
    -- The warning of the first regression stands before those of the others.
    refine (ih { stage with
      journal := stage.journal ++ [regressionEntry (dataset, candidate, current)] }).trans ?_
    rw [List.map_cons, List.append_assoc, List.singleton_append]

/-- **Merging is a join.** A merge holds the datasets of either side, each with the larger of its
watermarks; it changes nothing outside, and it warns once of each dataset whose candidate is below
the watermark that is there. As maps, merging is commutative, associative and idempotent, the result
is the least that bounds both sides, and committing results to a state depends on neither their order
nor their repetition. -/
theorem merge_is_join (distinct : (keys prior).Nodup) (distinctToo : (keys advanced).Nodup)
    (stage : Stage σ) :
    ((keys (merge prior advanced)).Nodup ∧
      (∀ dataset, dataset ∈ keys (merge prior advanced) ↔
        dataset ∈ keys prior ∨ dataset ∈ keys advanced) ∧
      ∀ dataset,
        level (merge prior advanced) dataset = max (level prior dataset) (level advanced dataset)) ∧
    (runOn (mergeNoted prior advanced) stage = (.ok (merge prior advanced),
        { stage with
          journal := stage.journal ++ (regressions prior advanced).map regressionEntry }) ∧
      ((regressions prior advanced).map (·.1)).Nodup ∧
      ∀ dataset candidate current, (dataset, candidate, current) ∈ regressions prior advanced ↔
        get? dataset advanced = some candidate ∧ get? dataset prior = some current ∧
          candidate < current) ∧
    (level (merge prior advanced) = level (merge advanced prior) ∧
      (∀ third, (keys third).Nodup →
        level (merge (merge prior advanced) third) = level (merge prior (merge advanced third))) ∧
      level (merge prior prior) = level prior) ∧
    (level prior ≤ level (merge prior advanced) ∧ level advanced ≤ level (merge prior advanced) ∧
      ∀ bound, level prior ≤ bound → level advanced ≤ bound →
        level (merge prior advanced) ≤ bound) ∧
    ∀ results others : List ScanResult,
      (∀ result ∈ results, (keys result.watermarks).Nodup) →
      (∀ result, result ∈ others ↔ result ∈ results) →
      level (committed prior others) = level (committed prior results) := by
  have join : level (merge prior advanced) = level prior ⊔ level advanced :=
    level_merge distinctToo
  refine ⟨⟨nodup_keys_merge distinct advanced, fun dataset => ?_, fun dataset => ?_⟩,
    ⟨runOn_mergeNoted prior advanced stage, nodup_regressions distinctToo,
      fun _ _ _ => mem_regressions_iff distinctToo⟩,
    ⟨?_, fun third distinctThird => ?_, ?_⟩, ⟨?_, ?_, fun bound first second => ?_⟩,
    fun results others each same => level_committed_eq each same⟩
  · rw [← level_ne_bot_iff, ← level_ne_bot_iff, ← level_ne_bot_iff, join, Pi.sup_apply, ne_eq,
      sup_eq_bot_iff, not_and_or]
  · rw [join]
    rfl
  · rw [join, level_merge distinct, sup_comm]
  · rw [level_merge distinctThird, join, level_merge (nodup_keys_merge distinctToo third),
      level_merge distinctThird, sup_assoc]
  · rw [level_merge distinct, sup_idem]
  · rw [join]
    exact le_sup_left
  · rw [join]
    exact le_sup_right
  · rw [join]
    exact sup_le first second

/-- Watermarks of a shop. -/
def shopHeld : Watermarks := [(⟨"sales", "orders"⟩, 100), (⟨"sales", "customers"⟩, -50)]

/-- Candidates for the shop, one of which is late. -/
def shopOffered : Watermarks :=
  [(⟨"sales", "customers"⟩, -40), (⟨"sales", "orders"⟩, 90), (⟨"depot", "stock"⟩, 0)]

def shopLater : Watermarks := [(⟨"sales", "orders"⟩, 120)]

/-- The late candidate is dropped with a warning, and commits may come in another order and again. -/
theorem shop_merged :
    level (merge shopHeld shopOffered) ⟨"sales", "orders"⟩ = ((100 : ℤ) : WithBot ℤ) ∧
    (runOn (mergeNoted shopHeld shopOffered) (⟨(), []⟩ : Stage Unit)).2.journal.map (·.message) =
      ["Ignoring watermark regression for sales@orders: 90 < 100"] ∧
    level (committed shopHeld [{ watermarks := shopLater }, { watermarks := shopOffered },
        { watermarks := shopLater }]) =
      level (committed shopHeld [{ watermarks := shopOffered }, { watermarks := shopLater }]) := by
  have distinct : (keys shopHeld).Nodup := by decide
  have distinctToo : (keys shopOffered).Nodup := by decide
  obtain ⟨⟨-, -, largest⟩, ⟨told, -, -⟩, -, -, commits⟩ :=
    merge_is_join distinct distinctToo (⟨(), []⟩ : Stage Unit)
  refine ⟨?_, ?_, commits _ _ ?_ fun result => ?_⟩
  · rw [largest]
    decide
  · rw [told]
    rfl
  · intro result member
    simp only [List.mem_cons, List.not_mem_nil, or_false] at member
    rcases member with rfl | rfl
    · exact distinctToo
    · exact List.nodup_singleton _
  · simp only [List.mem_cons, List.not_mem_nil, or_false]
    tauto

end CatalogDelta.Watermarks
