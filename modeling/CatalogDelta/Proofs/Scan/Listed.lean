import CatalogDelta.Proofs.Act.Yields
import CatalogDelta.Proofs.Scan.Interleaving

/-!
# Scans of catalogs that list everything

Let the clients that are leased answer by a view in which everything can be listed and every
partition fits its table. Update times may come from anywhere, and leases may fail. Then no failure
in the result of a scan is that of a listing, by one worker or by several.
-/

namespace CatalogDelta

open Act

/-- None of the failures is that of a listing. -/
def AllListed (failures : List ScanFailure) : Prop :=
  ∀ failure ∈ failures, failure.kind ≠ .catalogListingFailure

theorem AllListed.append {failures others : List ScanFailure} (first : AllListed failures)
    (second : AllListed others) : AllListed (failures ++ others) :=
  fun failure member => (List.mem_append.mp member).elim (first failure) (second failure)

theorem allListed_nil : AllListed [] := fun _ member => absurd member List.not_mem_nil

/-- Everything that a view shows can be listed, and partitions have a value for each key of their
table. -/
structure View.Fits (view : View) : Prop where
  databases : ∃ databases, view.databases = .ok databases
  tables : ∀ database ∈ view.shownDatabases, ∃ tables, view.tables database = .ok tables
  partitions : ∀ table ∈ view.listed, ∃ partitions, view.partitions table = .ok partitions ∧
    ∀ partition ∈ partitions, partition.values.length = table.partitionKeys.length

/-- The outcome is the answer, unless the connection was lost. -/
def OrLost {α : Type} (answer outcome : Except Fault α) : Prop :=
  outcome = answer ∨ ∃ fault, outcome = .error fault ∧ fault.kind.isA .connectionFailure = true

/-- Services lend clients that answer by a view wherever the outside meets a condition, if they lend
one at all. Of update times and of the clock nothing is asked but that they keep the condition. -/
structure ScanServices.Lends {σ : Type} (services : ScanServices σ) (ready : σ → Prop)
    (view : View) : Prop where
  lease : ∀ {α : Type} (work : Client σ → Act σ α) (answer : Except Fault α),
    (∀ (held : σ → Prop) (client : Client σ), client.Shows held view →
      Gives held (work client) answer) →
    Leads ready (services.lease work) fun outcome outside => ready outside ∧ OrLost answer outcome
  updateTime : ∀ entity, Keeps ready (services.updateTime entity)
  clock : Keeps ready services.clock

variable {σ : Type} {ready : σ → Prop} {view : View}

/-- What follows an attempt goes on from the answer or from a lost connection. -/
theorem Act.Leads.attempt_yields {α β : Type} {act : Act σ α} {answer : Except Fault α}
    {next : Except Fault α → Act σ β} {good : β → Prop}
    (first : Leads ready act fun outcome outside => ready outside ∧ OrLost answer outcome)
    (goes : Yields ready (next answer) good)
    (lost : ∀ fault, fault.kind.isA .connectionFailure = true →
      Yields ready (next (.error fault)) good) :
    Yields ready (attempt act >>= next) good := by
  intro stage met
  obtain ⟨kept, reached⟩ := first stage met
  rw [runOn_bind, runOn_attempt]
  rcases reached with same | ⟨fault, failed, connection⟩
  · rw [same]
    exact goes _ kept
  · rw [failed]
    exact lost fault connection _ kept

namespace View

theorem Fits.selected_eq (fits : view.Fits) (selector : Selector) :
    view.selected selector = .ok { tables := view.chosen selector } := by
  obtain ⟨databases, listed⟩ := fits.databases
  have shown : ∀ database ∈ databases.filter selector.databases.covers,
      ∃ tables, view.tables database = .ok tables := by
    intro database member
    apply fits.tables
    rw [shownDatabases, listed]
    exact (List.mem_filter.mp member).1
  have calm : view.choiceFault? selector = none := by
    simp only [choiceFault?, listed]
    apply List.findSome?_eq_none_iff.mpr
    intro database member
    obtain ⟨tables, found⟩ := shown database member
    rw [found]
    rfl
  have none : (databases.filter selector.databases.covers).filterMap view.databaseReport? = [] := by
    apply List.filterMap_eq_nil_iff.mpr
    intro database member
    obtain ⟨tables, found⟩ := shown database member
    rw [databaseReport?, found]
  simp only [selected, listed, calm, none, verdict_none]

theorem Fits.listing_eq (fits : view.Fits) {table : Table} (listed : table ∈ view.listed) :
    ∃ partitions, view.partitions table = .ok partitions ∧
      partitions.find? (fun partition =>
        decide (partition.values.length ≠ table.partitionKeys.length)) = none := by
  obtain ⟨partitions, found, fit⟩ := fits.partitions table listed
  refine ⟨partitions, found, List.find?_eq_none.mpr fun partition member => ?_⟩
  rw [decide_eq_true_eq, not_not]
  exact fit partition member

end View

namespace Scan

variable {services : ScanServices σ}

theorem evaluate_lists (lends : services.Lends ready view) (rules : ScanRules) (table : Table)
    (prior : Option Int) (now : Int) (entity : Entity) :
    Yields ready (evaluate services rules table prior now entity) fun evaluation =>
      AllListed evaluation.failures := by
  refine (lends.updateTime entity).attempt_bind fun outcome => ?_
  cases outcome with
  | ok updateTime => exact yields_pure allListed_nil
  | error fault =>
    dsimp only
    split
    · refine (keeps_record _).bind fun _ => yields_pure fun failure member => ?_
      rw [List.mem_singleton.mp member]
      exact nofun
    · exact yields_throw fault _

theorem evaluatePartition_lists (lends : services.Lends ready view) (rules : ScanRules)
    (table : Table) (prior : Option Int) (now : Int) (partition : Partition) :
    Yields ready (evaluatePartition services rules table prior now partition) fun evaluation =>
      AllListed evaluation.failures := by
  refine (keeps_settle _).bind fun ignored => ?_
  cases ignored with
  | true => exact (keeps_record _).bind fun _ => yields_pure allListed_nil
  | false => exact evaluate_lists lends rules table prior now (.partition partition)

theorem listPartitions_leads (lends : services.Lends ready view) (fits : view.Fits) {table : Table}
    (listed : table ∈ view.listed) :
    ∃ partitions, Leads ready (listPartitions services table) fun outcome outside =>
      ready outside ∧ OrLost (.ok partitions) outcome := by
  obtain ⟨partitions, found, fit⟩ := fits.listing_eq listed
  refine ⟨partitions, ?_⟩
  have fetched := lends.lease (fetchPartitions table) _ fun _ _ shows =>
    View.fetchPartitions_gives shows table
  rw [found] at fetched
  refine fetched.bind (fun fault outside reached => ?_) fun given => ?_
  · rcases reached.2 with same | ⟨other, same, connection⟩
    · exact nomatch same
    · exact ⟨reached.1, .inr ⟨other, same, connection⟩⟩
  · intro stage met
    rcases met.2 with same | ⟨_, same, _⟩
    · cases same
      rw [fit]
      exact ⟨met.1, .inl rfl⟩
    · exact nomatch same

theorem scanPartitions_lists (lends : services.Lends ready view) (rules : ScanRules)
    (table : Table) (prior : Option Int) (now : Int) (partitions : List Partition) :
    Yields ready (scanPartitions services rules table prior now partitions) fun outcome =>
      AllListed outcome.failures := by
  refine (Yields.mapM (evaluatePartition_lists lends rules table prior now) partitions).bind
    fun evaluations all => (keeps_record _).bind fun _ => yields_pure fun failure member => ?_
  obtain ⟨pair, inside, member⟩ := List.mem_flatMap.mp member
  exact all pair.2 (List.of_mem_zip inside).2 failure member

theorem scanPartitioned_lists (lends : services.Lends ready view) (fits : view.Fits)
    (rules : ScanRules) {table : Table} (listed : table ∈ view.listed) (prior : Option Int)
    (now : Int) :
    Yields ready (scanPartitioned services rules table prior now) fun outcome =>
      AllListed outcome.failures := by
  obtain ⟨partitions, lists⟩ := listPartitions_leads lends fits listed
  refine lists.attempt_yields (scanPartitions_lists lends rules table prior now partitions) ?_
  intro fault connection
  have other := FaultKind.not_listing_of_connectionFailure connection
  simp only [other, Bool.false_eq_true, ↓reduceIte]
  exact yields_throw fault _

theorem scanWhole_lists (lends : services.Lends ready view) (rules : ScanRules) (table : Table)
    (prior : Option Int) (now : Int) :
    Yields ready (scanWhole services rules table prior now) fun outcome =>
      AllListed outcome.failures :=
  (evaluate_lists lends rules table prior now (.table table)).bind fun _ all => yields_pure all

theorem scanTable_lists (lends : services.Lends ready view) (fits : view.Fits) (rules : ScanRules)
    (now : Int) (prior : Option Int) {table : Table} (listed : table ∈ view.listed) :
    Yields ready (scanTable services rules now prior table) fun outcome =>
      AllListed outcome.failures := by
  have noted {act : Act σ TableOutcome} (message : TableOutcome → String)
      (scanned : Yields ready act fun outcome => AllListed outcome.failures) :
      Yields ready
        (do
          let outcome ← act
          note table Level.debug (message outcome)
          return outcome) fun outcome => AllListed outcome.failures :=
    scanned.bind fun outcome all => (keeps_record _).bind fun _ => yields_pure all
  refine (keeps_settle _).bind fun ignored => ?_
  cases ignored with
  | true => exact (keeps_record _).bind fun _ => yields_pure allListed_nil
  | false =>
    cases table.isPartitioned with
    | true => exact noted _ (scanPartitioned_lists lends fits rules listed prior now)
    | false => exact noted _ (scanWhole_lists lends rules table prior now)

theorem choose_lists (lends : services.Lends ready view) (fits : view.Fits) (selector : Selector) :
    Yields ready (choose services selector) fun choice =>
      choice = .ok { tables := view.chosen selector } := by
  have leased := lends.lease selector.select _ fun _ _ shows => View.select_gives shows selector
  rw [fits.selected_eq] at leased
  refine leased.attempt_yields (yields_pure rfl) fun fault connection => ?_
  have other := FaultKind.not_listing_of_connectionFailure connection
  simp only [other, Bool.false_eq_true, ↓reduceIte]
  exact yields_throw fault _

variable {scheduler : Scheduler σ}

theorem scanSelection_lists (lends : scheduler.services.Lends ready view) (fits : view.Fits)
    (selector : Selector) (priors : Watermarks) (now : Int) :
    Yields ready (scanSelection scheduler { tables := view.chosen selector } priors now)
      fun result => AllListed result.failures := by
  have each (table : Table) (chosen : table ∈ view.chosen selector) :
      Yields ready (scanTable scheduler.services scheduler.rules now
        (OrderedMap.get? table.dataset priors) table) fun outcome => AllListed outcome.failures :=
    scanTable_lists lends fits scheduler.rules now _
      ((view.chosen_sublist_listed selector).mem chosen)
  have scanned : Yields ready
      (do
        let outcomes ← scanTables scheduler.services scheduler.rules priors now
          (view.chosen selector)
        return ScanResult.ofOutcomes [] ((view.chosen selector).zip outcomes))
      fun result => AllListed result.failures := by
    refine (Yields.mapM_of_mem each).bind fun outcomes all => yields_pure ?_
    rw [ScanResult.ofOutcomes_eq_addAll, ScanResult.addAll_failures]
    refine allListed_nil.append fun failure member => ?_
    obtain ⟨outcome, inside, member⟩ := List.mem_flatMap.mp member
    exact all outcome.2 (List.of_mem_zip inside).2 failure member
  unfold scanSelection
  split
  · exact (keeps_note _ _ _).bind fun _ => scanned
  · exact scanned

theorem run_lists (lends : scheduler.services.Lends ready view) (fits : view.Fits)
    (selector : Selector) (priors : Watermarks) (now : Int) :
    Yields ready (run scheduler selector priors now) fun result => AllListed result.failures := by
  refine lends.clock.bind fun started => (keeps_note _ _ _).bind fun _ => ?_
  refine (choose_lists lends fits selector).bind fun choice same => ?_
  rw [same]
  refine (scanSelection_lists lends fits selector priors now).bind fun result all => ?_
  exact lends.clock.bind fun ended => (keeps_note _ _ _).bind fun _ => yields_pure all

theorem request_lists (lends : scheduler.services.Lends ready view) (fits : view.Fits)
    (prior : List (WatermarkKey × Data)) (now : Data) (selector : Option Selector) :
    Yields ready (request scheduler prior now selector) fun result =>
      AllListed result.failures := by
  have timed : Keeps ready (timeOf scheduler now) := by
    cases now with
    | null => exact lends.clock
    | _ => exact keeps_settle _
  exact timed.bind fun now => (keeps_settle _).bind fun priors =>
    run_lists lends fits (selector.getD scheduler.selector) priors now

end Scan

/-! ## Several workers -/

theorem mem_of_gather {α : Type} {answers : List (Option (Except Fault α))} {values : List α}
    (gathered : gather answers = some (.ok values)) {value : α} (member : value ∈ values) :
    some (.ok value) ∈ answers := by
  rw [eq_map_of_gather gathered]
  exact List.mem_map_of_mem member

/-- No failure of a listing has come of a partition. -/
def Look.AllListed : Look → Prop
  | waiting => True
  | looked evaluation => CatalogDelta.AllListed evaluation.failures
  | settled answer => ∀ evaluation, answer = .ok evaluation →
      CatalogDelta.AllListed evaluation.failures

/-- No failure of a listing has come of a table. -/
def TableTask.AllListed : TableTask → Prop
  | waiting => True
  | looking looks _ => ∀ look ∈ looks, look.2.AllListed
  | settled answer => ∀ outcome, answer = .ok outcome → CatalogDelta.AllListed outcome.failures

/-- No failure of a listing has come of a scan, the tables of which are those of a view. -/
def ScanTask.AllListed (view : View) : ScanTask → Prop
  | waiting => True
  | scanning _ failures tasks => CatalogDelta.AllListed failures ∧
      ∀ entry ∈ tasks, entry.1 ∈ view.listed ∧ entry.2.AllListed
  | settled answer => ∀ result, answer = .ok result → CatalogDelta.AllListed result.failures

namespace Crew

variable {crew : Crew σ}

theorem openTable_lists (lends : crew.scheduler.services.Lends ready view) (fits : view.Fits)
    {table : Table} (listed : table ∈ view.listed) :
    Yields ready (crew.openTable table) TableTask.AllListed := by
  refine (keeps_settle _).bind fun ignored => ?_
  split
  · refine (Scan.scanTable_lists lends fits _ crew.now _ listed).bind fun outcome all => ?_
    exact yields_pure fun other same => Except.ok.inj same ▸ all
  · obtain ⟨partitions, lists⟩ := Scan.listPartitions_leads lends fits listed
    refine lists.attempt_yields (yields_pure fun look member => ?_) fun fault connection => ?_
    · obtain ⟨partition, -, rfl⟩ := List.mem_map.mp member
      exact trivial
    · have other := FaultKind.not_listing_of_connectionFailure connection
      simp only [other, Bool.false_eq_true, ↓reduceIte]
      exact yields_throw fault _

theorem takeUp_lists (lends : crew.scheduler.services.Lends ready view) (fits : view.Fits)
    {table : Table} (listed : table ∈ view.listed) {stage : Stage σ} (met : ready stage.outside) :
    (crew.takeUp table stage).1.AllListed ∧ ready (crew.takeUp table stage).2.outside := by
  obtain ⟨kept, holds⟩ := openTable_lists lends fits listed stage met
  unfold takeUp
  rcases ended : runOn (crew.openTable table) stage with ⟨answer, after⟩
  rw [ended] at kept holds
  cases answer with
  | ok task => exact ⟨holds task rfl, kept⟩
  | error fault => exact ⟨nofun, kept⟩

theorem lookAt_lists (lends : crew.scheduler.services.Lends ready view) (table : Table)
    (partition : Partition) {stage : Stage σ} (met : ready stage.outside) :
    (crew.lookAt table partition stage).1.AllListed ∧
      ready (crew.lookAt table partition stage).2.outside := by
  obtain ⟨kept, holds⟩ := Scan.evaluatePartition_lists lends crew.scheduler.rules table
    (crew.prior table) crew.now partition stage met
  unfold lookAt
  rcases ended : runOn (Scan.evaluatePartition crew.scheduler.services crew.scheduler.rules table
    (crew.prior table) crew.now partition) stage with ⟨answer, after⟩
  rw [ended] at kept holds
  cases answer with
  | ok evaluation => exact ⟨holds evaluation rfl, kept⟩
  | error fault => exact ⟨nofun, kept⟩

theorem finishTable_lists (crew : Crew σ) (table : Table) (partitions : List Partition)
    (best : RunningMax) {evaluations : List Evaluation} (all : ∀ evaluation ∈ evaluations,
      AllListed evaluation.failures) :
    Yields ready (crew.finishTable table partitions best evaluations) fun outcome =>
      AllListed outcome.failures := by
  refine (keeps_record _).bind fun _ => (keeps_record _).bind fun _ => yields_pure ?_
  intro failure member
  obtain ⟨pair, inside, member⟩ := List.mem_flatMap.mp member
  exact all pair.2 (List.of_mem_zip inside).2 failure member

/-- No move of a worker at a table brings a failure of a listing. -/
theorem moveTable?_lists (lends : crew.scheduler.services.Lends ready view) (fits : view.Fits)
    {table : Table} (listed : table ∈ view.listed) {move : TableMove} {task changed : TableTask}
    {stage after : Stage σ} (all : task.AllListed) (met : ready stage.outside)
    (moved : crew.moveTable? table move task stage = some (changed, after)) :
    changed.AllListed ∧ ready after.outside := by
  unfold moveTable? at moved
  split at moved
  case h_1 =>
    have taken := takeUp_lists lends fits listed met
    rw [Option.some.inj moved] at taken
    exact taken
  case h_2 index looks best =>
    split at moved
    · rename_i partition found
      have seen := lookAt_lists lends table partition met
      rcases looked : crew.lookAt table partition stage with ⟨look, later⟩
      rw [looked] at seen moved
      cases moved
      refine ⟨fun other member => ?_, seen.2⟩
      rcases List.mem_or_eq_of_mem_set member with inside | rfl
      · exact all other inside
      · exact seen.1
    · contradiction
  case h_3 index looks best =>
    split at moved
    · rename_i partition evaluation found
      cases moved
      have known : AllListed evaluation.failures := all _ (List.mem_of_getElem? found)
      refine ⟨fun other member => ?_, met⟩
      rcases List.mem_or_eq_of_mem_set member with inside | rfl
      · exact all other inside
      · exact fun given same => Except.ok.inj same ▸ known
    · contradiction
  case h_4 looks best =>
    split at moved
    · rename_i evaluations gathered
      have known : ∀ evaluation ∈ evaluations, AllListed evaluation.failures := by
        intro evaluation member
        obtain ⟨look, inside, answered⟩ := List.mem_map.mp (mem_of_gather gathered member)
        have settled := all look inside
        rcases look with ⟨partition, _ | _ | answer⟩
        · exact nomatch answered
        · exact nomatch answered
        · exact settled evaluation (Option.some.inj answered)
      obtain ⟨kept, holds⟩ :=
        finishTable_lists crew table (looks.map (·.1)) best known stage met
      cases moved
      exact ⟨holds, kept⟩
    · cases moved
      exact ⟨nofun, met⟩
    · contradiction
  case h_5 => contradiction

theorem start_lists (lends : crew.scheduler.services.Lends ready view) (fits : view.Fits) :
    Yields ready crew.start (ScanTask.AllListed view) := by
  refine lends.clock.bind fun started => (keeps_note _ _ _).bind fun _ => ?_
  refine (Scan.choose_lists lends fits crew.selector).bind fun choice same => ?_
  rw [same]
  have begun : ScanTask.AllListed view (.scanning started [] ((view.chosen crew.selector).map
      fun table => (table, .waiting))) := by
    refine ⟨allListed_nil, fun entry member => ?_⟩
    obtain ⟨table, chosen, rfl⟩ := List.mem_map.mp member
    exact ⟨(view.chosen_sublist_listed crew.selector).mem chosen, trivial⟩
  dsimp only
  split
  · exact (keeps_note _ _ _).bind fun _ => yields_pure begun
  · exact yields_pure begun

/-- No move brings a failure of a listing. -/
theorem move?_lists (lends : crew.scheduler.services.Lends ready view) (fits : view.Fits)
    {move : Move} {floor next : Floor σ} (all : floor.task.AllListed view)
    (met : ready floor.stage.outside) (moved : crew.move? move floor = some next) :
    next.task.AllListed view ∧ ready next.stage.outside := by
  unfold move? at moved
  split at moved
  case h_1 stage =>
    obtain ⟨kept, holds⟩ := start_lists lends fits stage met
    rcases ran : runOn crew.start stage with ⟨answer, after⟩
    rw [ran] at kept holds moved
    cases answer with
    | ok task =>
      cases moved
      exact ⟨holds task rfl, kept⟩
    | error fault =>
      cases moved
      exact ⟨nofun, kept⟩
  case h_2 index move stage started failures tasks =>
    split at moved
    · rename_i table task found
      split at moved
      · obtain ⟨⟨later, after⟩, movedTable, rfl⟩ := Option.map_eq_some_iff.mp moved
        obtain ⟨before, each⟩ := all
        obtain ⟨listed, known⟩ := each _ (List.mem_of_getElem? found)
        obtain ⟨knownLater, kept⟩ := moveTable?_lists lends fits listed known met movedTable
        refine ⟨⟨before, fun entry member => ?_⟩, kept⟩
        rcases List.mem_or_eq_of_mem_set member with inside | rfl
        · exact each entry inside
        · exact ⟨listed, knownLater⟩
      · contradiction
    · contradiction
  case h_3 stage started failures tasks =>
    obtain ⟨before, each⟩ := all
    split at moved
    · rename_i outcomes gathered
      have result_all : AllListed
          (ScanResult.ofOutcomes failures ((tasks.map (·.1)).zip outcomes)).failures := by
        rw [ScanResult.ofOutcomes_eq_addAll, ScanResult.addAll_failures]
        refine before.append fun failure member => ?_
        obtain ⟨pair, inside, member⟩ := List.mem_flatMap.mp member
        obtain ⟨entry, held, answered⟩ :=
          List.mem_map.mp (mem_of_gather gathered (List.of_mem_zip inside).2)
        have settled := (each entry held).2
        rcases entry with ⟨table, _ | _ | answer⟩
        · exact nomatch answered
        · exact nomatch answered
        · exact settled pair.2 (Option.some.inj answered) failure member
      have completes : Yields ready (crew.complete started
          (.ofOutcomes failures ((tasks.map (·.1)).zip outcomes))) fun result =>
            AllListed result.failures :=
        lends.clock.bind fun _ => (keeps_note _ _ _).bind fun _ => yields_pure result_all
      obtain ⟨kept, holds⟩ := completes stage met
      cases moved
      exact ⟨holds, kept⟩
    · cases moved
      exact ⟨nofun, met⟩
    · contradiction
  case h_4 => contradiction

theorem play?_lists (lends : crew.scheduler.services.Lends ready view) (fits : view.Fits)
    {moves : List Move} {floor last : Floor σ} (all : floor.task.AllListed view)
    (met : ready floor.stage.outside) (played : crew.play? moves floor = some last) :
    last.task.AllListed view ∧ ready last.stage.outside := by
  induction moves generalizing floor with
  | nil =>
    cases played
    exact ⟨all, met⟩
  | cons move others ih =>
    obtain ⟨next, moved, played⟩ := Option.bind_eq_some_iff.mp played
    obtain ⟨allNext, metNext⟩ := move?_lists lends fits all met moved
    exact ih allNext metNext played

end Crew
end CatalogDelta
