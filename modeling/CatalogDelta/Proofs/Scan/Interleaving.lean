import CatalogDelta.Proofs.Scan.Run
import CatalogDelta.Scan.Crew
import Mathlib.Algebra.GroupWithZero.Nat
import Mathlib.Data.List.Perm.Basic

/-!
# Interleaved scans

However the moves of the workers interleave, what has been found of a scan at any time is what a
single worker would find: the running maximum of a table does not depend on the order of its offers,
and answers are gathered in the order of the catalog. Main statements: a move keeps this agreement
and leaves fewer moves to make (`Crew.move?_agrees`), and so does a whole play
(`Crew.play?_agrees`).
-/

namespace CatalogDelta

open Act

/-- Offers may come in any order. -/
theorem RunningMax.offerAll_perm (best : RunningMax) {values others : List Int}
    (same : values.Perm others) : best.offerAll values = best.offerAll others := by
  have commutes : RightCommutative RunningMax.offer := ⟨RunningMax.offer_comm⟩
  exact same.foldl_eq best

theorem RunningMax.offerAll_append (best : RunningMax) (values others : List Int) :
    best.offerAll (values ++ others) = (best.offerAll values).offerAll others :=
  List.foldl_append

section Gather

variable {α ι : Type}

/-- All answers are there if values are gathered. -/
theorem eq_map_of_gather {answers : List (Option (Except Fault α))} {values : List α}
    (gathered : gather answers = some (.ok values)) :
    answers = values.map fun value => some (.ok value) := by
  induction answers generalizing values with
  | nil =>
    cases gathered
    rfl
  | cons answer others ih =>
    cases answer with
    | none => exact nomatch gathered
    | some answer =>
      cases answer with
      | error fault => exact nomatch Option.some.inj gathered
      | ok value =>
        obtain ⟨rest, given, same⟩ := Option.map_eq_some_iff.mp gathered
        cases rest with
        | error fault => contradiction
        | ok rest =>
          obtain rfl := Except.ok.inj same
          rw [ih given, List.map_cons]

/-- What is gathered of right answers is the first fault, or else all the values. -/
theorem gather_eq_verdict {items : List ι} {answer? : ι → Option (Except Fault α)}
    {fault : ι → Option Fault} {value : ι → α}
    (right : ∀ item ∈ items, ∀ answer, answer? item = some answer →
      answer = verdict (fault item) (value item))
    {answer : Except Fault (List α)} (gathered : gather (items.map answer?) = some answer) :
    answer = verdict (items.findSome? fault) (items.map value) := by
  induction items generalizing answer with
  | nil =>
    cases gathered
    rfl
  | cons item others ih =>
    have first := right item List.mem_cons_self
    have rest {answer : Except Fault (List α)}
        (gathered : gather (others.map answer?) = some answer) :=
      ih (fun other member => right other (List.mem_cons_of_mem item member)) gathered
    rw [List.map_cons] at gathered
    rw [List.findSome?_cons]
    cases settled : answer? item with
    | none =>
      rw [settled] at gathered
      exact nomatch gathered
    | some given =>
      rw [settled] at gathered
      cases given with
      | error cause =>
        cases gathered
        cases stopped : fault item with
        | none => exact nomatch stopped ▸ first _ settled
        | some fault => exact congrArg _ (Except.error.inj (stopped ▸ first _ settled))
      | ok found =>
        obtain ⟨further, gatheredRest, rfl⟩ := Option.map_eq_some_iff.mp gathered
        obtain ⟨calm, rfl⟩ := verdict_eq_ok_iff.mp (first _ settled).symm
        rw [calm, rest gatheredRest]
        cases others.findSome? fault <;> rfl

theorem exists_gather {answers : List (Option (Except Fault α))}
    (all : ∀ answer ∈ answers, answer.isSome = true) : ∃ answer, gather answers = some answer := by
  induction answers with
  | nil => exact ⟨_, rfl⟩
  | cons answer others ih =>
    obtain ⟨rest, gathered⟩ := ih fun other member => all other (List.mem_cons_of_mem answer member)
    obtain ⟨given, rfl⟩ := Option.isSome_iff_exists.mp (all answer List.mem_cons_self)
    cases given with
    | error fault => exact ⟨_, rfl⟩
    | ok value => exact ⟨_, by rw [gather, gathered, Option.map_some]⟩

/-- A list around one of its members. -/
theorem exists_around {items : List α} {index : Nat} {item : α}
    (found : items[index]? = some item) :
    ∃ before after, items = before ++ item :: after ∧
      ∀ other, items.set index other = before ++ other :: after := by
  obtain ⟨inside, rfl⟩ := List.getElem?_eq_some_iff.mp found
  refine ⟨items.take index, items.drop (index + 1), ?_, fun other => ?_⟩
  · rw [List.getElem_cons_drop, List.take_append_drop]
  · rw [List.set_eq_take_append_cons_drop, if_pos inside]

end Gather

namespace Look

/-- The look agrees with what is to come of the partition. -/
def Agrees (answer : Except Fault Evaluation) : Look → Prop
  | waiting => True
  | looked evaluation => answer = .ok evaluation
  | settled given => answer = given

/-- The update time that has been offered, if one has. -/
def offered? (look : Look) : Option Int :=
  look.answer?.bind fun answer => answer.toOption.bind (·.admitted)

/-- How many moves are left at most. -/
def weight : Look → Nat
  | waiting => 2
  | looked _ => 1
  | settled _ => 0

end Look

namespace Crew

variable {σ : Type} (crew : Crew σ) (view : View)

/-- What is to come of a partition. -/
def partitionAnswer (table : Table) (partition : Partition) : Except Fault Evaluation :=
  verdict (view.partitionFault? crew.scheduler.rules partition)
    (view.partitionEvaluation crew.scheduler.rules (crew.prior table) crew.now partition)

/-- What is to come of a table. -/
def tableAnswer (table : Table) : Except Fault TableOutcome :=
  verdict (view.tableFault? crew.scheduler.rules table)
    ((view.surveyTable crew.scheduler.rules table).outcome crew.scheduler.rules (crew.prior table)
      crew.now)

/-- What is to come of the scan. -/
def scanAnswer : Except Fault ScanResult :=
  verdict (view.fault? crew.scheduler.rules crew.selector)
    ((view.survey crew.scheduler.rules crew.selector).result crew.scheduler.rules crew.priors
      crew.now)

/-- A table whose partitions are being looked at, so far as they agree with what is to come. -/
structure Looking (table : Table) (looks : List (Partition × Look)) (best : RunningMax) : Prop where
  located : crew.scheduler.rules.locationFault? table.location = none
  seen : crew.scheduler.rules.passesOver table.location = false
  partitioned : table.isPartitioned = true
  listed : view.listing table = .ok (looks.map (·.1))
  agree : ∀ held ∈ looks, held.2.Agrees (crew.partitionAnswer view table held.1)
  best_eq : best = ({} : RunningMax).offerAll (looks.filterMap fun held => held.2.offered?)

def TableAgrees (table : Table) : TableTask → Prop
  | .waiting => True
  | .looking looks best => crew.Looking view table looks best
  | .settled answer => answer = crew.tableAnswer view table

/-- How many moves a table needs at most. -/
def tableWeight (table : Table) : TableTask → Nat
  | .waiting => 2 * ((view.listing table).toOption.getD []).length + 2
  | .looking looks _ => (looks.map (·.2.weight)).sum + 1
  | .settled _ => 0

section Tables

variable {crew : Crew σ} {view : View} {ready : σ → Prop} {table : Table}

theorem Looking.tableFault?_eq {looks : List (Partition × Look)} {best : RunningMax}
    (looking : crew.Looking view table looks best) :
    view.tableFault? crew.scheduler.rules table =
      looks.findSome? fun held => view.partitionFault? crew.scheduler.rules held.1 := by
  simp only [View.tableFault?, View.openTableFault?, looking.located, looking.seen,
    looking.partitioned, looking.listed, Option.none_or, Bool.false_eq_true, ↓reduceIte,
    List.findSome?_map]
  rfl

/-- What is gathered of the looks at partitions: the fault of the table, or else what comes of each
partition. -/
theorem Looking.gathered_eq {looks : List (Partition × Look)} {best : RunningMax}
    (looking : crew.Looking view table looks best) {gathered : Except Fault (List Evaluation)}
    (given : gather (looks.map (·.2.answer?)) = some gathered) :
    gathered = verdict (view.tableFault? crew.scheduler.rules table)
      (looks.map fun held =>
        view.partitionEvaluation crew.scheduler.rules (crew.prior table) crew.now held.1) := by
  rw [looking.tableFault?_eq]
  refine gather_eq_verdict (fun held member answer settled => ?_) given
  have agrees := looking.agree held member
  cases look : held.2 with
  | settled found =>
    rw [look] at agrees settled
    exact (Option.some.inj settled).symm.trans (Eq.symm agrees)
  | waiting | looked => exact nomatch look ▸ settled

/-- What came of the looks at all partitions is what a single worker would find. -/
theorem Looking.outcome_eq {looks : List (Partition × Look)} {best : RunningMax}
    (looking : crew.Looking view table looks best) {evaluations : List Evaluation}
    (gathered : gather (looks.map (·.2.answer?)) = some (.ok evaluations)) :
    crew.outcome table best ((looks.map (·.1)).zip evaluations) =
      (view.surveyTable crew.scheduler.rules table).outcome crew.scheduler.rules
        (crew.prior table) crew.now := by
  obtain ⟨_, found⟩ := verdict_eq_ok_iff.mp (looking.gathered_eq gathered).symm
  have offered : looks.filterMap (fun held => held.2.offered?) =
      evaluations.filterMap (·.admitted) := by
    calc looks.filterMap (fun held => held.2.offered?)
        = (looks.map (·.2.answer?)).filterMap fun answer? =>
            answer?.bind fun answer => answer.toOption.bind (·.admitted) := by
          rw [List.filterMap_map]
          rfl
      _ = evaluations.filterMap (·.admitted) := by
          rw [eq_map_of_gather gathered, List.filterMap_map]
          rfl
  have same : (looks.map (·.1)).length = evaluations.length := by
    rw [← found, List.length_map, List.length_map]
  have admitted : ((looks.map (·.1)).zip evaluations).filterMap (·.2.admitted) =
      evaluations.filterMap (·.admitted) := by
    conv_rhs => rw [← List.map_snd_zip (Nat.le_of_eq same.symm), List.filterMap_map]
    rfl
  have together := View.ofEvaluations_eq_outcome looking.seen looking.partitioned looking.listed
    (crew.prior table) crew.now
  rw [List.map_map] at together
  rw [← together]
  unfold outcome TableOutcome.ofEvaluations
  rw [looking.best_eq, offered, ← admitted, ← found]
  rfl

/-- A look that replaces one without an offer, with its offer if it makes one. -/
theorem Looking.set {looks : List (Partition × Look)} {best : RunningMax}
    (looking : crew.Looking view table looks best) {index : Nat} {partition : Partition}
    {earlier later : Look} (found : looks[index]? = some (partition, earlier))
    (unoffered : earlier.offered? = none)
    (agrees : later.Agrees (crew.partitionAnswer view table partition)) :
    crew.Looking view table (looks.set index (partition, later))
      (best.offerAll later.offered?.toList) := by
  obtain ⟨before, after, around, set⟩ := exists_around found
  obtain ⟨located, seen, partitioned, listed, agree, best_eq⟩ := looking
  refine ⟨located, seen, partitioned, ?_, fun held member => ?_, ?_⟩
  · rw [listed, set, around]
    simp only [List.map_append, List.map_cons]
  · rcases List.mem_or_eq_of_mem_set member with inside | rfl
    · exact agree held inside
    · exact agrees
  · rw [best_eq, ← RunningMax.offerAll_append, set, around]
    -- Offers are made in the order of the moves, but are counted in that of the partitions.
    refine RunningMax.offerAll_perm _ ?_
    simp only [List.filterMap_append, List.filterMap_cons, unoffered]
    cases later.offered? with
    | none => simp only [Option.toList_none, List.append_nil, List.Perm.refl]
    | some updateTime =>
      simp only [Option.toList_some, List.append_assoc]
      exact (List.perm_append_singleton updateTime _).append_left _

/-- A lighter look makes a lighter table. -/
theorem tableWeight_set {looks : List (Partition × Look)} {index : Nat} {partition : Partition}
    {earlier later : Look} (found : looks[index]? = some (partition, earlier))
    (lighter : later.weight < earlier.weight) (best bestLater : RunningMax) :
    tableWeight view table (.looking (looks.set index (partition, later)) bestLater) <
      tableWeight view table (.looking looks best) := by
  obtain ⟨before, after, around, set⟩ := exists_around found
  rw [set, around]
  simp only [tableWeight, List.map_append, List.map_cons, List.sum_append, List.sum_cons]
  omega

theorem lookAt_agrees (shows : crew.scheduler.services.Shows ready view) (table : Table)
    (partition : Partition) {stage : Stage σ} (met : ready stage.outside) :
    (crew.lookAt table partition stage).1.Agrees (crew.partitionAnswer view table partition) ∧
      (crew.lookAt table partition stage).1.offered? = none ∧
      (crew.lookAt table partition stage).1.weight < Look.waiting.weight ∧
      ready (crew.lookAt table partition stage).2.outside := by
  obtain ⟨given, kept⟩ := View.evaluatePartition_gives shows crew.scheduler.rules table
    (crew.prior table) crew.now partition stage met
  unfold lookAt
  rcases ran : runOn (Scan.evaluatePartition crew.scheduler.services crew.scheduler.rules table
    (crew.prior table) crew.now partition) stage with ⟨answer, after⟩
  rw [ran] at given kept
  cases answer with
  | ok evaluation => exact ⟨given.symm, rfl, Nat.lt_succ_self 1, kept⟩
  | error fault => exact ⟨given.symm, rfl, Nat.zero_lt_two, kept⟩

/-- Nothing has been found of partitions that wait. -/
theorem Looking.of_waiting {partitions : List Partition}
    (located : crew.scheduler.rules.locationFault? table.location = none)
    (seen : crew.scheduler.rules.passesOver table.location = false)
    (partitioned : table.isPartitioned = true) (listed : view.listing table = .ok partitions) :
    crew.Looking view table (partitions.map fun partition => (partition, .waiting)) {} where
  located := located
  seen := seen
  partitioned := partitioned
  listed := by
    rw [listed, List.map_map]
    exact congrArg Except.ok (List.map_id partitions).symm
  agree held member := by
    obtain ⟨partition, _, rfl⟩ := List.mem_map.mp member
    trivial
  best_eq := by
    have nothing : (partitions.map fun partition => (partition, Look.waiting)).filterMap
        (fun held => held.2.offered?) = [] := by
      rw [List.filterMap_map]
      exact List.filterMap_eq_nil_iff.mpr fun _ _ => rfl
    rw [nothing]
    rfl

/-- What is to come of a table whose partitions cannot be listed. -/
theorem tableAnswer_of_unlisted {fault : Fault}
    (located : crew.scheduler.rules.locationFault? table.location = none)
    (seen : crew.scheduler.rules.passesOver table.location = false)
    (partitioned : table.isPartitioned = true) (unlisted : view.listing table = .error fault) :
    crew.tableAnswer view table =
      if fault.kind.isA .listing then
        .ok (.failed ⟨table.dataset.urn, .catalogListingFailure, fault.described⟩)
      else .error fault := by
  rw [tableAnswer, View.outcome_of_unlisted seen partitioned unlisted, View.tableFault?, located,
    seen, Option.none_or, View.openTableFault?, partitioned, unlisted]
  by_cases kind : fault.kind.isA .listing = true
  · simp only [kind, Bool.false_eq_true, ↓reduceIte, verdict_none]
  · simp only [kind, Bool.false_eq_true, ↓reduceIte, verdict_some]

/-- Taking a table up answers by the view: with a task that agrees with it and has fewer moves left,
or with the fault of the table. -/
theorem openTable_gives (shows : crew.scheduler.services.Shows ready view) (table : Table) :
    ∃ opened, Gives ready (crew.openTable table) opened ∧
      match opened with
      | .ok task => crew.TableAgrees view table task ∧
          tableWeight view table task < tableWeight view table .waiting
      | .error fault => crew.tableAnswer view table = .error fault := by
  have ignores : Gives ready (settle (crew.scheduler.rules.ignores table.location)) _ :=
    View.ignores_gives _ _
  unfold openTable
  cases located : crew.scheduler.rules.locationFault? table.location with
  | some fault =>
    rw [located] at ignores
    refine ⟨.error fault, ignores.bind_error, ?_⟩
    simp only [tableAnswer, View.tableFault?, located, Option.some_or, verdict_some]
  | none =>
    rw [located] at ignores
    by_cases whole : (crew.scheduler.rules.passesOver table.location || !table.isPartitioned) = true
    · have scanned : Gives ready (Scan.scanTable _ _ crew.now (crew.prior table) table)
          (crew.tableAnswer view table) := View.scanTable_gives shows _ _ _ table
      cases answered : crew.tableAnswer view table with
      | error fault =>
        rw [answered] at scanned
        refine ⟨.error fault, ignores.bind ?_, rfl⟩
        simp only [whole, ↓reduceIte]
        exact scanned.bind_error
      | ok outcome =>
        rw [answered] at scanned
        refine ⟨.ok (.settled (.ok outcome)), ignores.bind ?_, answered.symm, Nat.succ_pos _⟩
        simp only [whole, ↓reduceIte]
        exact scanned.bind (gives_pure _)
    · obtain ⟨seen, partitioned⟩ : crew.scheduler.rules.passesOver table.location = false ∧
          table.isPartitioned = true := by simpa using whole
      have fetched := (View.listPartitions_gives shows table).attempt
      cases listed : view.listing table with
      | ok partitions =>
        rw [listed] at fetched
        refine ⟨.ok (.looking (partitions.map fun partition => (partition, .waiting)) {}),
          ignores.bind ?_, .of_waiting located seen partitioned listed, ?_⟩
        · simp only [whole, Bool.false_eq_true, ↓reduceIte]
          exact fetched.bind (gives_pure _)
        · simp only [tableWeight, listed, Except.toOption, Option.getD_some, List.map_map,
            Function.comp_def, Look.weight, List.map_const', List.sum_replicate_nat]
          omega
      | error fault =>
        rw [listed] at fetched
        have answered : crew.tableAnswer view table = _ :=
          tableAnswer_of_unlisted located seen partitioned listed
        by_cases unlisted : fault.kind.isA .listing = true
        · rw [if_pos unlisted] at answered
          refine ⟨.ok (.settled (.ok _)), ignores.bind ?_, answered.symm, Nat.succ_pos _⟩
          simp only [whole, Bool.false_eq_true, ↓reduceIte]
          refine fetched.bind ?_
          simp only [unlisted, ↓reduceIte]
          exact (gives_record _).bind ((gives_record _).bind (gives_pure _))
        · rw [if_neg unlisted] at answered
          refine ⟨.error fault, ignores.bind ?_, answered⟩
          simp only [whole, Bool.false_eq_true, ↓reduceIte]
          refine fetched.bind ?_
          simp only [unlisted, Bool.false_eq_true, ↓reduceIte]
          exact gives_throw fault

theorem takeUp_agrees (shows : crew.scheduler.services.Shows ready view) (table : Table)
    {stage : Stage σ} (met : ready stage.outside) :
    crew.TableAgrees view table (crew.takeUp table stage).1 ∧
      tableWeight view table (crew.takeUp table stage).1 < tableWeight view table .waiting ∧
      ready (crew.takeUp table stage).2.outside := by
  obtain ⟨opened, gives, agrees⟩ := openTable_gives shows table
  obtain ⟨given, kept⟩ := gives stage met
  unfold takeUp
  rcases ran : runOn (crew.openTable table) stage with ⟨answer, after⟩
  rw [ran] at given kept
  subst given
  cases answer with
  | ok task => exact ⟨agrees.1, agrees.2, kept⟩
  | error fault => exact ⟨Eq.symm agrees, Nat.succ_pos _, kept⟩

/-- **What a move does to a table**: it still agrees with what is to come, and it has fewer moves
left. -/
theorem moveTable?_agrees (shows : crew.scheduler.services.Shows ready view) {move : TableMove}
    {task next : TableTask} {stage after : Stage σ} (agrees : crew.TableAgrees view table task)
    (met : ready stage.outside)
    (moved : crew.moveTable? table move task stage = some (next, after)) :
    crew.TableAgrees view table next ∧ tableWeight view table next < tableWeight view table task ∧
      ready after.outside := by
  unfold moveTable? at moved
  split at moved
  case h_1 =>
    have taken := takeUp_agrees shows table met
    rw [Option.some.inj moved] at taken
    exact taken
  case h_2 index looks best =>
    split at moved
    · rename_i partition found
      have seen := lookAt_agrees shows table partition met
      rcases looked : crew.lookAt table partition stage with ⟨look, later⟩
      rw [looked] at seen moved
      obtain ⟨agreesLook, unoffered, lighter, kept⟩ := seen
      cases moved
      have set := Looking.set agrees found rfl agreesLook
      rw [unoffered] at set
      exact ⟨set, tableWeight_set found lighter _ _, kept⟩
    · contradiction
  case h_3 index looks best =>
    split at moved
    · rename_i partition evaluation found
      cases moved
      have agreesLook := agrees.agree _ (List.mem_of_getElem? found)
      have lighter : (Look.settled (.ok evaluation)).weight < (Look.looked evaluation).weight :=
        Nat.zero_lt_one
      exact ⟨agrees.set found rfl agreesLook, tableWeight_set found lighter _ _, met⟩
    · contradiction
  case h_4 looks best =>
    split at moved
    · rename_i evaluations gathered
      cases moved
      obtain ⟨calm, _⟩ := verdict_eq_ok_iff.mp (agrees.gathered_eq gathered).symm
      refine ⟨?_, Nat.succ_pos _, met⟩
      rw [TableAgrees, tableAnswer, calm, verdict_none, ← agrees.outcome_eq gathered]
    · rename_i fault gathered
      cases moved
      have stopped := verdict_eq_error_iff.mp (agrees.gathered_eq gathered).symm
      refine ⟨?_, Nat.succ_pos _, met⟩
      rw [TableAgrees, tableAnswer, stopped, verdict_some]
    · contradiction
  case h_5 => contradiction

end Tables

section Floors

variable {crew : Crew σ} {view : View} {ready : σ → Prop}

/-- The scan agrees with what is to come of it. -/
def ScanAgrees (crew : Crew σ) (view : View) : ScanTask → Prop
  | .waiting => True
  | .scanning _ failures tasks =>
    view.choiceFault? crew.selector = none ∧ failures = view.listingFailures crew.selector ∧
      tasks.map (·.1) = view.chosen crew.selector ∧
      ∀ held ∈ tasks, crew.TableAgrees view held.1 held.2
  | .settled answer => answer = crew.scanAnswer view

/-- How many moves a scan needs at most. -/
def scanWeight (crew : Crew σ) (view : View) : ScanTask → Nat
  | .waiting =>
    ((view.chosen crew.selector).map fun table => tableWeight view table .waiting).sum + 2
  | .scanning _ _ tasks => (tasks.map fun held => tableWeight view held.1 held.2).sum + 1
  | .settled _ => 0

/-- The choice of tables answers by the view: with a task that agrees with it and has fewer moves
left, or with the fault of the scan. -/
theorem choose_gives (shows : crew.scheduler.services.Shows ready view) (started : Int) :
    ∃ begun, Gives ready (crew.choose started) begun ∧
      match begun with
      | .ok task => crew.ScanAgrees view task ∧
          crew.scanWeight view task < crew.scanWeight view .waiting
      | .error fault => crew.scanAnswer view = .error fault := by
  have chosen := View.choose_gives shows crew.selector
  unfold choose
  cases stopped : view.choiceFault? crew.selector with
  | some fault =>
    rw [stopped] at chosen
    refine ⟨.error fault, (gives_note _ _ _).bind chosen.bind_error, ?_⟩
    simp only [scanAnswer, View.fault?, stopped, Option.some_or, verdict_some]
  | none =>
    rw [stopped, verdict_none, View.choice] at chosen
    cases databases : view.databases with
    | error cause =>
      rw [databases] at chosen
      refine ⟨.ok (.settled (.ok { failures := [View.catalogFailure cause] })),
        (gives_note _ _ _).bind (chosen.bind (gives_pure _)), ?_, Nat.succ_pos _⟩
      have empty : view.chosen crew.selector = [] := by
        simp [View.chosen, View.shownDatabases, databases, Except.toOption]
      rw [ScanAgrees, scanAnswer, View.fault?, View.survey, View.listingFailures, stopped, empty,
        databases]
      rfl
    | ok found =>
      rw [databases] at chosen
      refine ⟨.ok (.scanning started (view.listingFailures crew.selector)
          ((view.chosen crew.selector).map fun table => (table, .waiting))),
        (gives_note _ _ _).bind (chosen.bind ?_), ⟨stopped, rfl, ?_, ?_⟩, ?_⟩
      · have failures : view.listingFailures crew.selector =
            ((found.filter crew.selector.databases.covers).filterMap view.databaseReport?).map
              Scan.listingFailure := by
          rw [View.listingFailures, databases]
        rw [failures]
        dsimp only
        split
        · exact (gives_note _ _ _).bind (gives_pure _)
        · exact gives_pure _
      · rw [List.map_map]
        exact List.map_id _
      · intro held member
        obtain ⟨table, _, rfl⟩ := List.mem_map.mp member
        trivial
      · rw [scanWeight, scanWeight, List.map_map]
        exact Nat.lt_succ_self _

/-- What is gathered of the tables is what is to come of the scan. -/
theorem scanAnswer_of_gather {tasks : List (Table × TableTask)}
    (calm : view.choiceFault? crew.selector = none)
    (same : tasks.map (·.1) = view.chosen crew.selector)
    (agree : ∀ held ∈ tasks, crew.TableAgrees view held.1 held.2)
    {gathered : Except Fault (List TableOutcome)}
    (given : gather (tasks.map (·.2.answer?)) = some gathered) :
    crew.scanAnswer view = gathered.map fun outcomes =>
      .ofOutcomes (view.listingFailures crew.selector) ((tasks.map (·.1)).zip outcomes) := by
  have settled : gathered = verdict
      (tasks.findSome? fun held => view.tableFault? crew.scheduler.rules held.1)
      (tasks.map fun held => (view.surveyTable crew.scheduler.rules held.1).outcome
        crew.scheduler.rules (crew.prior held.1) crew.now) := by
    refine gather_eq_verdict (fun held member answer settled => ?_) given
    have agrees := agree held member
    cases task : held.2 with
    | settled found =>
      rw [task] at agrees settled
      exact (Option.some.inj settled).symm.trans agrees
    | waiting | looking => exact nomatch task ▸ settled
  have fault : view.fault? crew.scheduler.rules crew.selector =
      tasks.findSome? fun held => view.tableFault? crew.scheduler.rules held.1 := by
    rw [View.fault?, calm, Option.none_or, ← same, List.findSome?_map]
    rfl
  rw [scanAnswer, fault, settled]
  cases tasks.findSome? fun held => view.tableFault? crew.scheduler.rules held.1 with
  | some fault => rfl
  | none =>
    rw [verdict_none, verdict_none, View.survey, View.result_surveyTables, ← same, List.map_map]
    rfl

theorem complete_gives (shows : crew.scheduler.services.Shows ready view) (started : Int)
    (result : ScanResult) : Gives ready (crew.complete started result) (.ok result) :=
  shows.clock.bind fun _ => (gives_note _ _ _).bind (gives_pure result)

/-- **What a move does to a scan**: it still agrees with what is to come, and it has fewer moves
left. -/
theorem move?_agrees (shows : crew.scheduler.services.Shows ready view) {move : Move}
    {floor next : Floor σ} (agrees : crew.ScanAgrees view floor.task)
    (met : ready floor.stage.outside) (moved : crew.move? move floor = some next) :
    crew.ScanAgrees view next.task ∧
      crew.scanWeight view next.task < crew.scanWeight view floor.task ∧
      ready next.stage.outside := by
  unfold move? at moved
  split at moved
  case h_1 stage =>
    obtain ⟨started, given, kept⟩ := shows.clock stage met
    obtain ⟨begun, gives, begins⟩ := choose_gives shows started
    obtain ⟨chosen, still⟩ := gives _ kept
    have ended : runOn crew.start stage = runOn (crew.choose started) _ := runOn_bind_of_ok given _
    rw [← ended] at chosen still
    rcases ran : runOn crew.start stage with ⟨answer, after⟩
    rw [ran] at chosen still moved
    subst chosen
    cases answer with
    | ok task =>
      cases moved
      exact ⟨begins.1, begins.2, still⟩
    | error fault =>
      cases moved
      exact ⟨Eq.symm begins, Nat.succ_pos _, still⟩
  case h_2 index move stage started failures tasks =>
    split at moved
    · rename_i table task found
      split at moved
      · obtain ⟨⟨later, after⟩, movedTable, rfl⟩ := Option.map_eq_some_iff.mp moved
        obtain ⟨calm, listed, same, agree⟩ := agrees
        obtain ⟨agreesLater, lighter, kept⟩ :=
          moveTable?_agrees shows (agree _ (List.mem_of_getElem? found)) met movedTable
        obtain ⟨before, rest, around, set⟩ := exists_around found
        refine ⟨⟨calm, listed, ?_, fun held member => ?_⟩, ?_, kept⟩
        · rw [set, ← same, around]
          simp only [List.map_append, List.map_cons]
        · rcases List.mem_or_eq_of_mem_set member with inside | rfl
          · exact agree held inside
          · exact agreesLater
        -- The other tables weigh what they did.
        · dsimp only at lighter ⊢
          rw [set, around]
          simp only [scanWeight, List.map_append, List.map_cons, List.sum_append, List.sum_cons]
          omega
      · contradiction
    · contradiction
  case h_3 stage started failures tasks =>
    obtain ⟨calm, listed, same, agree⟩ := agrees
    split at moved
    · rename_i outcomes gathered
      have answered := scanAnswer_of_gather calm same agree gathered
      obtain ⟨given, kept⟩ := complete_gives shows started
        (.ofOutcomes failures ((tasks.map (·.1)).zip outcomes)) stage met
      rcases ran : runOn (crew.complete started
        (.ofOutcomes failures ((tasks.map (·.1)).zip outcomes))) stage with ⟨answer, after⟩
      dsimp only at moved
      rw [ran] at given kept moved
      cases moved
      refine ⟨?_, Nat.succ_pos _, kept⟩
      rw [ScanAgrees, answered, ← listed]
      exact given
    · rename_i fault gathered
      cases moved
      exact ⟨(scanAnswer_of_gather calm same agree gathered).symm, Nat.succ_pos _, met⟩
    · contradiction
  case h_4 => contradiction

/-- Moves one after the other keep the agreement, and there are only so many of them. -/
theorem play?_agrees (shows : crew.scheduler.services.Shows ready view) {moves : List Move}
    {floor last : Floor σ} (agrees : crew.ScanAgrees view floor.task)
    (met : ready floor.stage.outside) (played : crew.play? moves floor = some last) :
    crew.ScanAgrees view last.task ∧
      moves.length + crew.scanWeight view last.task ≤ crew.scanWeight view floor.task := by
  induction moves generalizing floor with
  | nil =>
    cases played
    exact ⟨agrees, Nat.le_of_eq (Nat.zero_add _)⟩
  | cons move others ih =>
    obtain ⟨next, moved, rest⟩ := Option.bind_eq_some_iff.mp played
    obtain ⟨agreesNext, lighter, kept⟩ := move?_agrees shows agrees met moved
    obtain ⟨agreesLast, bounded⟩ := ih agreesNext kept rest
    refine ⟨agreesLast, ?_⟩
    rw [List.length_cons]
    omega

end Floors

end Crew

end CatalogDelta
