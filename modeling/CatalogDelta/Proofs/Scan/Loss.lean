import CatalogDelta.Proofs.Scan.Commit
import CatalogDelta.Proofs.Scan.Outage
import Mathlib.Data.List.Perm.Basic

/-!
# What an outage loses

A strict scan during an outage is committed, and the catalog is scanned again without the outage.
What the two scans give together is what one scan without the outage gives, but for the partitions
whose update times were not found while a later update of the same table was admitted. Main
statement: nothing else is lost, and nothing is given twice.
-/

namespace CatalogDelta

open Act OrderedMap

section Lists

variable {α β κ : Type} [DecidableEq κ]

/-- Two filters that no member passes both select together what passes either. -/
theorem filter_append_filter_perm {first second : α → Bool} {members : List α}
    (apart : ∀ member ∈ members, first member = true → second member = false) :
    (members.filter first ++ members.filter second).Perm
      (members.filter fun member => first member || second member) := by
  have kept : (members.filter fun member => first member || second member).filter first =
      members.filter first := by
    rw [List.filter_filter]
    apply List.filter_congr
    intro member _
    cases first member <;> rfl
  have others : (members.filter fun member => first member || second member).filter
      (fun member => !first member) = members.filter second := by
    rw [List.filter_filter]
    apply List.filter_congr
    intro member inside
    cases passed : first member with
    | true => rw [apart member inside passed]; rfl
    | false => rfl
  have split := List.filter_append_perm first
    (members.filter fun member => first member || second member)
  rw [kept, others] at split
  exact split

/-- What comes of some of the members comes of all of them if the others give nothing. -/
theorem flatMap_eq_of_sublist {part whole : List α} (within : part.Sublist whole) {key : α → κ}
    (distinct : (whole.map key).Nodup) (give : α → List β) :
    part.flatMap give =
      whole.flatMap fun member => if key member ∈ part.map key then give member else [] := by
  induction within with
  | slnil => rfl
  | @cons part whole member within ih =>
    obtain ⟨absent, distinct⟩ := List.nodup_cons.mp distinct
    have missing : key member ∉ part.map key := fun inside =>
      absent ((within.map key).subset inside)
    rw [List.flatMap_cons, if_neg missing, List.nil_append]
    exact ih distinct
  | @cons_cons part whole member within ih =>
    obtain ⟨absent, distinct⟩ := List.nodup_cons.mp distinct
    rw [List.map_cons, List.flatMap_cons, List.flatMap_cons, if_pos List.mem_cons_self,
      ih distinct]
    congr 1
    apply List.flatMap_congr
    intro other inside
    have different : key other ≠ key member := fun same =>
      absent (same ▸ List.mem_map_of_mem inside)
    simp only [List.mem_cons, different, false_or]

end Lists

/-- The latest update time among the work for a dataset. -/
def ScanResult.latestFor (result : ScanResult) (dataset : Dataset) : Option Int :=
  ((result.work.filter fun work => work.dataset = dataset).map (·.updateTime)).max?

/-- After a scan during an outage some work is lost: it is for a partition, the partitions of its
table were listed, its own update time was not found, and it is not later than the latest update
that the scan has admitted for its table. -/
def View.loses (faulted : View) (first : ScanResult) (work : Work) : Bool :=
  match work.partition with
  | none => false
  | some partition =>
    (faulted.partitions work.table).isOk && !(faulted.updateTime (.partition partition)).isOk &&
      (first.latestFor work.dataset).any fun latest => work.updateTime ≤ latest

theorem ScanResult.latestFor_any (result : ScanResult) (dataset : Dataset) (time : Int) :
    ((result.latestFor dataset).any fun latest => time ≤ latest) = true ↔
      ∃ work ∈ result.work, work.dataset = dataset ∧ time ≤ work.updateTime := by
  rw [Option.any_eq_true]
  constructor
  · rintro ⟨latest, known, below⟩
    obtain ⟨work, member, rfl⟩ := List.mem_map.mp (List.max?_mem known)
    obtain ⟨member, same⟩ := List.mem_filter.mp member
    exact ⟨work, member, of_decide_eq_true same, of_decide_eq_true below⟩
  · rintro ⟨work, member, same, below⟩
    have offered : work.updateTime ∈
        (result.work.filter fun work => work.dataset = dataset).map (·.updateTime) :=
      List.mem_map_of_mem (List.mem_filter.mpr ⟨member, decide_eq_true same⟩)
    obtain ⟨latest, known⟩ := Option.isSome_iff_exists.mp (List.isSome_max?_of_mem offered)
    have reached := (List.max?_eq_some_iff.mp known).2 _ offered
    exact ⟨latest, known, decide_eq_true (Int.le_trans below reached)⟩

namespace TableSurvey

variable {usual faulted : TableSurvey} {found : Sighting → Bool}

theorem admitted_filter (still : faulted.sightings = usual.sightings.filter found)
    (rules : ScanRules) (prior : Option Int) (now : Int) :
    faulted.admitted rules prior now = (usual.admitted rules prior now).filter found := by
  simp only [admitted, still, List.filter_filter, Bool.and_comm]

/-- After the merge of an outcome the rules admit what comes after all that was admitted. -/
theorem admitted_after (usual faulted : TableSurvey) {rules : ScanRules}
    (strict : rules.strict = true) (prior : Option Int) (now : Int) :
    usual.admitted rules (faulted.next rules prior now) now =
      (usual.admitted rules prior now).filter fun sighting =>
        (faulted.admitted rules prior now).all fun earlier =>
          earlier.updateTime < sighting.updateTime := by
  have spread (mark : Option Int) : usual.admitted rules mark now =
      usual.sightings.filter fun sighting => rules.admits sighting.updateTime mark now := rfl
  rw [spread, spread, List.filter_filter]
  apply List.filter_congr
  intro sighting _
  rw [Bool.eq_iff_iff, Bool.and_eq_true, ScanRules.admits_eq_true_iff,
    ScanRules.admits_eq_true_iff, isNew_next, List.all_eq_true]
  simp only [ScanRules.isNew_some_of_strict strict, decide_eq_true_eq]
  exact ⟨fun ⟨inside, new, above⟩ => ⟨above, inside, new⟩,
    fun ⟨above, inside, new⟩ => ⟨inside, new, above⟩⟩

/-- What is admitted during an outage and after it is what is usually admitted, without what was not
found although something at least as late was admitted. -/
theorem admitted_perm (still : faulted.sightings = usual.sightings.filter found)
    {rules : ScanRules} (strict : rules.strict = true) (prior : Option Int) (now : Int) :
    (faulted.admitted rules prior now ++
      usual.admitted rules (faulted.next rules prior now) now).Perm
      ((usual.admitted rules prior now).filter fun sighting =>
        found sighting || (faulted.admitted rules prior now).all fun earlier =>
          earlier.updateTime < sighting.updateTime) := by
  rw [admitted_after usual faulted strict]
  have apart : ∀ sighting ∈ usual.admitted rules prior now, found sighting = true →
      ((faulted.admitted rules prior now).all fun earlier =>
        earlier.updateTime < sighting.updateTime) = false := by
    intro sighting member kept
    have again : sighting ∈ faulted.admitted rules prior now := by
      rw [admitted_filter still]
      exact List.mem_filter.mpr ⟨member, kept⟩
    rw [List.all_eq_false]
    exact ⟨sighting, again, by simp⟩
  have joined := filter_append_filter_perm apart
  rw [← admitted_filter still] at joined
  exact joined

end TableSurvey

namespace View

variable {faulted usual : View} {rules : ScanRules} {table : Table}

theorem entity_mem_entitiesOf {view : View} {sighting : Sighting}
    (member : sighting ∈ (view.surveyTable rules table).sightings) :
    sighting.entity ∈ view.entitiesOf table := by
  obtain ⟨entity, inside, shown⟩ := List.mem_filterMap.mp member
  have same : sighting.entity = entity := by
    unfold sighting? at shown
    split at shown
    · cases shown
      rfl
    · contradiction
  rw [same]
  unfold lookedAt at inside
  split at inside
  · exact absurd inside List.not_mem_nil
  · exact List.mem_of_mem_filter inside

theorem entity_eq_table {view : View} {entity : Entity} (whole : table.isPartitioned = false)
    (member : entity ∈ view.entitiesOf table) : entity = .table table := by
  rw [entitiesOf, whole] at member
  exact List.mem_singleton.mp member

theorem entity_eq_partition {view : View} {entity : Entity}
    (partitioned : table.isPartitioned = true) (member : entity ∈ view.entitiesOf table) :
    ∃ partition, entity = .partition partition := by
  rw [entitiesOf, if_pos partitioned] at member
  obtain ⟨partition, _, same⟩ := List.mem_map.mp member
  exact ⟨partition, same.symm⟩

/-- Of a table that is scanned during an outage the work that is lost is what was not found although
something at least as late was admitted. -/
theorem loses_work {first : ScanResult} {admitted : List Sighting}
    (latest : ∀ time, ((first.latestFor table.dataset).any fun latest => time ≤ latest) =
      admitted.any fun earlier => time ≤ earlier.updateTime)
    (found : ∀ earlier ∈ admitted, faulted.finds table earlier.entity = true ∧
      earlier.entity ∈ usual.entitiesOf table)
    {sighting : Sighting} (member : sighting.entity ∈ usual.entitiesOf table) :
    (!faulted.loses first (sighting.work table)) =
      (faulted.finds table sighting.entity || admitted.all fun earlier =>
        earlier.updateTime < sighting.updateTime) := by
  have above : (admitted.all fun earlier => earlier.updateTime < sighting.updateTime) =
      !admitted.any fun earlier => sighting.updateTime ≤ earlier.updateTime := by
    rw [List.not_any_eq_all_not]
    simp only [← Int.not_le, decide_not]
  cases partitioned : table.isPartitioned with
  | false =>
    have itself := entity_eq_table partitioned member
    have kept : faulted.loses first (sighting.work table) = false := by
      simp only [loses, Sighting.work, itself, Entity.partition?]
    rw [kept, Bool.not_false, eq_comm, Bool.or_eq_true]
    cases known : faulted.finds table sighting.entity with
    | true => exact .inl rfl
    | false =>
      -- A table has no entity but itself: if it is not found, nothing has been admitted.
      refine .inr (List.all_eq_true.mpr fun earlier inside => ?_)
      obtain ⟨seen, listed⟩ := found earlier inside
      rw [entity_eq_table partitioned listed, ← itself, known] at seen
      contradiction
  | true =>
    obtain ⟨partition, itself⟩ := entity_eq_partition partitioned member
    rw [above]
    simp only [loses, Sighting.work, finds, itself, Entity.partition?, partitioned, latest,
      Bool.not_true, Bool.false_or]
    cases readable : (faulted.partitions table).isOk with
    | true => cases (faulted.updateTime (.partition partition)).isOk <;> rfl
    | false =>
      -- Where the partitions are not listed, none of them is found.
      have none_admitted : admitted = [] := by
        apply List.eq_nil_iff_forall_not_mem.mpr
        intro earlier inside
        have seen := (found earlier inside).1
        rw [finds, partitioned, readable] at seen
        contradiction
      rw [none_admitted]
      rfl

/-- The work that a scan of a view gives, one chosen table after the other. -/
theorem work_result (view : View) (rules : ScanRules) (selector : Selector) (priors : Watermarks)
    (now : Int) :
    ((view.survey rules selector).result rules priors now).work =
      (view.chosen selector).flatMap fun table =>
        ((view.surveyTable rules table).admitted rules (get? table.dataset priors) now).map
          (Sighting.work table) := by
  rw [Survey.result_work, survey, List.flatMap_map]
  rfl

theorem ListsOnce.eq_of_dataset (once : usual.ListsOnce) {other : Table}
    (listed : table ∈ usual.listed) (otherListed : other ∈ usual.listed)
    (same : other.dataset = table.dataset) : other = table :=
  List.inj_on_of_nodup_map once otherListed listed same

section Recovery

variable {selector : Selector} {priors : Watermarks} {now : Int} {first : ScanResult}

theorem mem_chosen_of_dataset (outage : faulted.Outage usual) (once : usual.ListsOnce)
    (member : table ∈ usual.chosen selector)
    (reached : table.dataset ∈ (faulted.chosen selector).map (·.dataset)) :
    table ∈ faulted.chosen selector := by
  obtain ⟨other, chosen, same⟩ := List.mem_map.mp reached
  have within := (usual.chosen_sublist_listed selector).subset
  have usually := (outage.chosen_sublist selector).subset chosen
  rwa [← once.eq_of_dataset (within member) (within usually) same]

theorem latestFor_any_eq (outage : faulted.Outage usual) (once : usual.ListsOnce)
    (made : first = (faulted.survey rules selector).result rules priors now)
    (member : table ∈ faulted.chosen selector) (time : Int) :
    ((first.latestFor table.dataset).any fun latest => time ≤ latest) =
      ((faulted.surveyTable rules table).admitted rules (get? table.dataset priors) now).any
        fun earlier => time ≤ earlier.updateTime := by
  have within := ((outage.chosen_sublist selector).trans
    (usual.chosen_sublist_listed selector)).subset
  rw [Bool.eq_iff_iff, ScanResult.latestFor_any, List.any_eq_true, made, work_result]
  constructor
  · rintro ⟨work, given, same, below⟩
    obtain ⟨other, chosen, inside⟩ := List.mem_flatMap.mp given
    obtain ⟨sighting, admitted, rfl⟩ := List.mem_map.mp inside
    obtain rfl := once.eq_of_dataset (within member) (within chosen) same
    exact ⟨sighting, admitted, decide_eq_true below⟩
  · rintro ⟨sighting, admitted, below⟩
    exact ⟨sighting.work table, List.mem_flatMap.mpr ⟨table, member, List.mem_map_of_mem admitted⟩,
      rfl, of_decide_eq_true below⟩

theorem Outage.survey_distinct (outage : faulted.Outage usual) (once : usual.ListsOnce)
    (rules : ScanRules) (selector : Selector) :
    ((faulted.survey rules selector).tables.map (·.table.dataset)).Nodup := by
  rw [survey_datasets]
  exact (once.chosen selector).sublist ((outage.chosen_sublist selector).map _)

/-- Nothing is lost of a table that is not reached during an outage. -/
theorem loses_eq_false (made : first = (faulted.survey rules selector).result rules priors now)
    {work : Work} (missed : work.dataset ∉ (faulted.chosen selector).map (·.dataset)) :
    faulted.loses first work = false := by
  have none_later : ((first.latestFor work.dataset).any fun latest =>
      work.updateTime ≤ latest) = false := by
    rw [Bool.eq_false_iff, ne_eq, ScanResult.latestFor_any, made, work_result]
    rintro ⟨given, inside, same, _⟩
    obtain ⟨table, chosen, inside⟩ := List.mem_flatMap.mp inside
    obtain ⟨sighting, _, rfl⟩ := List.mem_map.mp inside
    exact missed (List.mem_map.mpr ⟨table, chosen, same⟩)
  unfold loses
  split
  · rfl
  · rw [none_later, Bool.and_false]

/-- Of a table that is reached, what the two scans give is what is usually given and not lost. -/
theorem reached_perm (outage : faulted.Outage usual) (once : usual.ListsOnce)
    (strict : rules.strict = true)
    (made : first = (faulted.survey rules selector).result rules priors now)
    (member : table ∈ faulted.chosen selector) :
    (((faulted.surveyTable rules table).admitted rules (get? table.dataset priors) now).map
        (Sighting.work table) ++
      ((usual.surveyTable rules table).admitted rules
        ((faulted.surveyTable rules table).next rules (get? table.dataset priors) now) now).map
          (Sighting.work table)).Perm
      ((((usual.surveyTable rules table).admitted rules (get? table.dataset priors) now).map
        (Sighting.work table)).filter fun work => !faulted.loses first work) := by
  have still := outage.sightings_eq rules table
  have joined := TableSurvey.admitted_perm still strict (get? table.dataset priors) now
  have found : ∀ earlier ∈ (faulted.surveyTable rules table).admitted rules
      (get? table.dataset priors) now,
      faulted.finds table earlier.entity = true ∧ earlier.entity ∈ usual.entitiesOf table := by
    intro earlier inside
    rw [TableSurvey.admitted_filter still] at inside
    obtain ⟨inside, seen⟩ := List.mem_filter.mp inside
    exact ⟨seen, entity_mem_entitiesOf (List.mem_of_mem_filter inside)⟩
  rw [← List.map_append, List.filter_map]
  refine (joined.map _).trans (List.Perm.of_eq ?_)
  congr 1
  apply List.filter_congr
  intro sighting inside
  exact (loses_work (latestFor_any_eq outage once made member) found
    (entity_mem_entitiesOf (List.mem_of_mem_filter inside))).symm

theorem table_perm (outage : faulted.Outage usual) (once : usual.ListsOnce)
    (strict : rules.strict = true)
    (made : first = (faulted.survey rules selector).result rules priors now)
    (member : table ∈ usual.chosen selector) :
    ((if table.dataset ∈ (faulted.chosen selector).map (·.dataset) then
        ((faulted.surveyTable rules table).admitted rules (get? table.dataset priors) now).map
          (Sighting.work table)
      else []) ++
      ((usual.surveyTable rules table).admitted rules
        (get? table.dataset (Watermarks.merge priors first.watermarks)) now).map
          (Sighting.work table)).Perm
      ((((usual.surveyTable rules table).admitted rules (get? table.dataset priors) now).map
        (Sighting.work table)).filter fun work => !faulted.loses first work) := by
  -- The watermark of a table moves only if the table is reached during the outage.
  by_cases reached : table.dataset ∈ (faulted.chosen selector).map (·.dataset)
  · have chosen := mem_chosen_of_dataset outage once member reached
    have distinct := outage.survey_distinct once rules selector
    have seen : faulted.surveyTable rules table ∈ (faulted.survey rules selector).tables :=
      List.mem_map_of_mem chosen
    have next : get? table.dataset (Watermarks.merge priors first.watermarks) =
        (faulted.surveyTable rules table).next rules (get? table.dataset priors) now := by
      rw [made]
      exact Survey.get?_merge_of_mem rules priors now distinct seen
    rw [if_pos reached, next]
    exact reached_perm outage once strict made chosen
  · have kept : get? table.dataset (Watermarks.merge priors first.watermarks) =
        get? table.dataset priors := by
      rw [made]
      refine Survey.get?_merge_of_notMem rules priors now ?_
      rwa [survey_datasets]
    rw [if_neg reached, List.nil_append, kept]
    refine List.Perm.of_eq (List.filter_eq_self.mpr ?_).symm
    intro work inside
    obtain ⟨sighting, _, rfl⟩ := List.mem_map.mp inside
    rw [loses_eq_false made reached]
    rfl

theorem recovered_perm (outage : faulted.Outage usual) (once : usual.ListsOnce)
    (strict : rules.strict = true)
    (made : first = (faulted.survey rules selector).result rules priors now) :
    (first.work ++ ((usual.survey rules selector).result rules
      (Watermarks.merge priors first.watermarks) now).work).Perm
      (((usual.survey rules selector).result rules priors now).work.filter fun work =>
        !faulted.loses first work) := by
  have given : first.work = (usual.chosen selector).flatMap fun table =>
      if table.dataset ∈ (faulted.chosen selector).map (·.dataset) then
        ((faulted.surveyTable rules table).admitted rules (get? table.dataset priors) now).map
          (Sighting.work table)
      else [] := by
    rw [made, work_result]
    exact flatMap_eq_of_sublist (outage.chosen_sublist selector) (once.chosen selector) _
  rw [work_result, work_result, List.filter_flatMap, given]
  refine (List.flatMap_append_perm _ _ _).trans (List.Perm.flatMap_left _ ?_)
  intro table member
  exact table_perm outage once strict made member

theorem recovered_disjoint (outage : faulted.Outage usual) (once : usual.ListsOnce)
    (strict : rules.strict = true)
    (made : first = (faulted.survey rules selector).result rules priors now) :
    first.work.Disjoint ((usual.survey rules selector).result rules
      (Watermarks.merge priors first.watermarks) now).work := by
  intro work given again
  have new := Survey.isNew_of_mem_work again
  rw [made] at given new
  have reached := Survey.reaches_of_mem_work (outage.survey_distinct once rules selector) given
  have above := reached.outdated new
  rw [if_pos strict] at above
  exact Int.lt_irrefl _ above

/-- What is lost is a partition of a table that was listed and whose partitions were listed. -/
theorem reached_of_loses (outage : faulted.Outage usual) (once : usual.ListsOnce)
    (made : first = (faulted.survey rules selector).result rules priors now) {work : Work}
    (usually : work ∈ ((usual.survey rules selector).result rules priors now).work)
    (lost : faulted.loses first work = true) :
    work.partition.isSome = true ∧ work.table ∈ faulted.listed ∧
      (faulted.partitions work.table).isOk = true := by
  unfold loses at lost
  split at lost
  · contradiction
  rename_i partition isPartition
  obtain ⟨failed, behind⟩ := Bool.and_eq_true_iff.mp lost
  refine ⟨by rw [isPartition]; rfl, ?_, (Bool.and_eq_true_iff.mp failed).1⟩
  obtain ⟨given, inside, same, _⟩ := (ScanResult.latestFor_any ..).mp behind
  rw [made, work_result] at inside
  rw [work_result] at usually
  obtain ⟨reached, chosen, inside⟩ := List.mem_flatMap.mp inside
  obtain ⟨_, _, rfl⟩ := List.mem_map.mp inside
  obtain ⟨table, usuallyChosen, inside⟩ := List.mem_flatMap.mp usually
  obtain ⟨_, _, rfl⟩ := List.mem_map.mp inside
  have listed := (usual.chosen_sublist_listed selector).subset
  have reachedListed := listed ((outage.chosen_sublist selector).subset chosen)
  obtain rfl : reached = table :=
    once.eq_of_dataset (listed usuallyChosen) reachedListed same
  exact (faulted.chosen_sublist_listed selector).subset chosen

end Recovery
end View

/-- **Exactly what an outage loses.** Let a strict scan return on a catalog that lists each dataset
at most once. The same scan returns during an outage, and so does a scan without the outage after
the watermarks have been merged. The two give no work twice, and together they give the usual work
without what `View.loses` tells. All that is missing are partitions of tables that were listed and
whose partitions were listed. -/
theorem rescan_after_outage {σ : Type} {scheduler : Scheduler σ} {troubled : ScanServices σ}
    {ready during : σ → Prop} {usual faulted : View}
    (shows : scheduler.services.Shows ready usual) (showsFaulted : troubled.Shows during faulted)
    (outage : faulted.Outage usual) (once : usual.ListsOnce)
    (strict : scheduler.rules.strict = true) {selector : Selector} {priors : Watermarks}
    {now : Int} (stage amid later : Stage σ) (met : ready stage.outside)
    (metAmid : during amid.outside) (metLater : ready later.outside) {expected : ScanResult}
    (returned : (runOn (Scan.run scheduler selector priors now) stage).1 = .ok expected) :
    ∃ first second,
      (runOn (Scan.run { scheduler with services := troubled } selector priors now) amid).1 =
        .ok first ∧
      (runOn (Scan.run scheduler selector (Watermarks.merge priors first.watermarks) now) later).1 =
        .ok second ∧
      first.work.Disjoint second.work ∧
      (first.work ++ second.work).Perm
        (expected.work.filter fun work => !faulted.loses first work) ∧
      ∀ work ∈ expected.work, work ∉ first.work → work ∉ second.work →
        work.partition.isSome = true ∧ work.table ∈ faulted.listed ∧
          (faulted.partitions work.table).isOk = true := by
  rw [(View.run_gives shows selector priors now stage met).1, verdict_eq_ok_iff] at returned
  obtain ⟨calm, rfl⟩ := returned
  obtain ⟨first, made⟩ : ∃ first, first =
      (faulted.survey scheduler.rules selector).result scheduler.rules priors now := ⟨_, rfl⟩
  have recovered := View.recovered_perm outage once strict made
  refine ⟨first, _, ?_, View.run_returns shows calm _ now later metLater,
    View.recovered_disjoint outage once strict made, recovered, ?_⟩
  · have showsAmid : ({ scheduler with services := troubled } : Scheduler σ).services.Shows during
        faulted := showsFaulted
    rw [made]
    exact View.run_returns showsAmid (outage.fault?_eq_none calm) priors now amid metAmid
  · intro work usually absent stillAbsent
    apply View.reached_of_loses outage once made usually
    cases lost : faulted.loses first work with
    | true => rfl
    | false =>
      have kept : (!faulted.loses first work) = true := by rw [lost, Bool.not_false]
      have regained := recovered.mem_iff.mpr (List.mem_filter.mpr ⟨usually, kept⟩)
      rcases List.mem_append.mp regained with given | again
      · exact absurd given absent
      · exact absurd again stillAbsent

namespace Site

/-- The update times of the shop if the one that is not recorded is known after all. -/
def timely (entity : Entity) : Except Fault Int :=
  .ok ((UpdateTimeSource.creationTime entity).toOption.getD 500)

/-- The same update times while that of one day is not found. -/
def forgetful (entity : Entity) : Except Fault Int :=
  if entity.describe = "sales@orders/mon" then
    .error (.report { kind := .updateTimeNotFound, message := "No update time for the moment" })
  else timely entity

theorem forgetful_outage :
    (Catalog.shop.view [] forgetful).Outage (Catalog.shop.view [] timely) where
  databases := .inl rfl
  tables _ := .inl rfl
  partitions _ := .inl rfl
  updateTime entity := by
    change Lapses _ (forgetful entity) (timely entity)
    unfold forgetful
    split
    · refine .inr ⟨_, rfl, ?_⟩
      unfold Fault.NotFound
      rfl
    · exact .inl rfl

end Site

/-- In the shop the orders of the day whose update time is not found are lost, since later ones are
admitted. -/
theorem outage_of_shop :
    ∃ expected first second,
      (runOn (Scan.run (Site.shopScheduler Site.timely) .everything [] 5000)
        { outside := Site.shop [] }).1 = .ok expected ∧
      (runOn (Scan.run (Site.shopScheduler Site.forgetful) .everything [] 5000)
        { outside := Site.shop [] }).1 = .ok first ∧
      (runOn (Scan.run (Site.shopScheduler Site.timely) .everything
        (Watermarks.merge [] first.watermarks) 5000) { outside := Site.shop [] }).1 = .ok second ∧
      (first.work ++ second.work).Perm (expected.work.filter fun work =>
        !(Catalog.shop.view [] Site.forgetful).loses first work) ∧
      (expected.work.filter ((Catalog.shop.view [] Site.forgetful).loses first)).map
        (fun work => (work.table.dataset.table, work.updateTime)) = [("orders", 1000)] := by
  have shows := Site.shopScheduler_shows [] Site.timely
  have showsFaulted := Site.shopScheduler_shows [] Site.forgetful
  have calm : (Catalog.shop.view [] Site.timely).fault? (Site.shopScheduler Site.timely).rules
      .everything = none := Option.isNone_iff_eq_none.mp (by decide +kernel)
  have calmFaulted := Site.forgetful_outage.fault?_eq_none calm
  have returned := View.run_returns shows calm [] 5000 { outside := Site.shop [] }
    (Site.shop_open [])
  have returnedFaulted := View.run_returns showsFaulted calmFaulted [] 5000
    { outside := Site.shop [] } (Site.shop_open [])
  obtain ⟨first, second, firstReturned, secondReturned, _, recovered, _⟩ :=
    rescan_after_outage shows showsFaulted Site.forgetful_outage (Site.shop_listsOnce _) rfl
      { outside := Site.shop [] } { outside := Site.shop [] } { outside := Site.shop [] }
      (Site.shop_open []) (Site.shop_open []) (Site.shop_open []) returned
  obtain rfl := Except.ok.inj (returnedFaulted.symm.trans firstReturned)
  refine ⟨_, _, second, returned, firstReturned, secondReturned, recovered, ?_⟩
  decide +kernel

end CatalogDelta
