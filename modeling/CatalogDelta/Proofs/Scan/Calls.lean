import CatalogDelta.Proofs.Scan.Conversation
import CatalogDelta.Proofs.Scan.Deeds
import CatalogDelta.Proofs.Scan.Selection
import CatalogDelta.Proofs.Scan.Sight

/-!
# The calls of a scan

A scan lists the databases, then the tables of each database that it covers, then the partitions of
each table that it has chosen and does not pass over: each of them once, in the order in which they
have been listed, and each under a lease. What ends the scan cuts this short. Main statement: the
deeds of a scan under watch keep to this agenda, whatever the clients answer.
-/

namespace CatalogDelta

open Act Deeds

/-- The fault with which an act ends. -/
def Act.fault? {α : Type} : Except Fault α → Option Fault
  | .ok _ => none
  | .error fault => some fault

/-- The fault with which the act of listing something ends a scan: a failure to list does not. -/
def Act.escape? {α : Type} : Except Fault α → Option Fault
  | .ok _ => none
  | .error fault => if fault.kind.isA .listing then none else some fault

/-- The partitions of the table are listed in a scan. -/
def Table.isOpened (rules : ScanRules) (table : Table) : Bool :=
  table.isPartitioned && !rules.passesOver table.location

/-- The calls that are due for a table that is chosen. -/
def Table.calls (rules : ScanRules) (table : Table) : List Question :=
  if table.isOpened rules then [.partitions table] else []

/-- The calls of a choice of tables for which some databases are listed. -/
def Selector.choiceCalls (selector : Selector) (databases : List String) : List Question :=
  .databases :: (databases.filter selector.databases.covers).map .tables

/-- The calls of a scan for which some databases and some tables are listed. -/
def Selector.agenda (selector : Selector) (rules : ScanRules) (databases : List String)
    (tables : List Table) : List Question :=
  selector.choiceCalls databases ++
    ((tables.filter fun table => selector.coversTable table.dataset).filter
      (·.isOpened rules)).map .partitions

theorem Table.flatMap_calls (rules : ScanRules) (tables : List Table) :
    tables.flatMap (·.calls rules) = (tables.filter (·.isOpened rules)).map .partitions := by
  induction tables with
  | nil => rfl
  | cons table others ih =>
    rw [List.flatMap_cons, ih, List.filter_cons, calls]
    cases table.isOpened rules <;> rfl

/-- Calls for partitions list neither databases nor tables. -/
theorem Deeds.listed_of_calls {deeds : Deeds}
    (opens : ∀ question ∈ calls deeds, ∃ table, question = .partitions table) :
    databases deeds = [] ∧ tables deeds = [] := by
  have each : ∀ exchange ∈ talk deeds,
      exchange.listedDatabases = [] ∧ exchange.listedTables = [] := by
    intro exchange said
    have opened : ∀ question, exchange.call? = some question →
        ∃ table, question = .partitions table := fun question made =>
      opens question (List.mem_filterMap.mpr ⟨exchange, said, made⟩)
    cases exchange with
    | databases answer =>
      obtain ⟨table, same⟩ := opened _ rfl
      exact nomatch same
    | tables database answer =>
      obtain ⟨table, same⟩ := opened _ rfl
      exact nomatch same
    | making answer => exact ⟨rfl, rfl⟩
    | partitions table answer => exact ⟨rfl, rfl⟩
    | updateTime entity answer => exact ⟨rfl, rfl⟩
  exact ⟨List.flatMap_eq_nil_iff.mpr fun exchange said => (each exchange said).1,
    List.flatMap_eq_nil_iff.mpr fun exchange said => (each exchange said).2⟩

/-- The tables that are listed are among the entities that are. -/
theorem Deeds.tables_subset_entities (deeds : Deeds) :
    deeds.tables.map .table ⊆ deeds.entities := by
  intro entity member
  obtain ⟨table, listed, rfl⟩ := List.mem_map.mp member
  obtain ⟨exchange, said, listed⟩ := List.mem_flatMap.mp listed
  refine List.mem_flatMap.mpr ⟨exchange, said, List.mem_append_left _ ?_⟩
  exact List.mem_map_of_mem listed

variable {σ : Type}

section Choice

/-- The calls for the tables of databases, in turn. -/
theorem TableAnswers.InTurn.conduct {answers : TableAnswers} {databases : List String}
    (turn : answers.InTurn databases) (rules : ScanRules) (known : List Entity) :
    Conduct rules true known (databases.map .tables) answers.deeds answers.lost? := by
  induction turn with
  | nil => exact .nil rules true known
  | @cons database answer answers databases kept rest ih =>
    rw [lost?_cons_of_kept kept]
    have called : Conduct rules true known [.tables database] [.said (.tables database answer)]
        none := .call (.tables database answer) rfl kept rules known
    exact called.append ih (List.subset_append_left _ _)
  | @lost database answer fault ends databases =>
    rw [lost?_cons_of_lost ends]
    have called : Conduct rules true known [.tables database] [.said (.tables database answer)]
        (some fault) := .call (.tables database answer) rfl ends rules known
    exact called.stopped _

theorem TableAnswers.databases_deeds (answers : TableAnswers) : answers.deeds.databases = [] := by
  induction answers with
  | nil => rfl
  | cons answer others ih => exact ih

theorem TableAnswers.chosen_eq (answers : TableAnswers) (allowed : Table → Bool) :
    answers.chosen allowed = answers.deeds.tables.filter allowed := by
  induction answers with
  | nil => rfl
  | cons answer others ih =>
    obtain ⟨database, answer⟩ := answer
    have first : Deeds.tables (TableAnswers.deeds ((database, answer) :: others)) =
        answer.toOption.getD [] ++ Deeds.tables (TableAnswers.deeds others) := by
      cases answer <;> rfl
    rw [first, List.filter_append, ← ih]
    rfl

variable {client : Client σ} (selector : Selector) (rules : ScanRules)

/-- A choice of tables: all calls that list databases or tables are made for it, and the tables that
are covered are chosen unless the scan is ended. -/
structure Chosen (leased : Bool) (deeds : Deeds) (ending : Option Fault) (tables : List Table) :
    Prop where
  conduct : Conduct rules leased [] (selector.choiceCalls deeds.databases) deeds ending
  tables_eq : ending = none →
    tables = deeds.tables.filter fun table => selector.coversTable table.dataset

theorem Chosen.under_lease {selector : Selector} {rules : ScanRules} {inside : Deeds}
    {ending : Option Fault} {tables : List Table}
    (during : Chosen selector rules true inside ending tables) :
    Chosen selector rules false (.opened :: inside ++ [.closed]) ending tables where
  conduct := by
    rw [databases_under_lease]
    exact during.conduct.under_lease
  tables_eq := by
    rw [tables_under_lease]
    exact during.tables_eq

/-- The databases are listed, and then the tables of each one that is covered. -/
theorem select_chooses :
    Follows (selector.select client.watched) (selector.select client) fun deeds answer =>
      Chosen selector rules true deeds (escape? answer) (answer.toOption.getD {}).tables := by
  refine (select_follows selector).imp ?_
  rintro _ answer ⟨listing, answers, rfl, turn, rfl⟩
  have listed {ending : Option Fault} (ends : View.lostConnection listing = ending) :
      Conduct rules true [] [.databases] [.said (.databases listing)] ending :=
    .call (.databases listing) rfl ends rules []
  cases listing with
  | error cause =>
    have unasked : answers.InTurn [] := turn
    cases unasked
    have ends : View.lostConnection (.error cause : Except Fault (List String)) =
        escape? (.error (View.databasesFault cause) : Except Fault Selection) := by
      by_cases lost : cause.kind.isA .connectionFailure = true
      · simp [View.lostConnection, View.databasesFault, escape?, lost,
          FaultKind.not_listing_of_connectionFailure lost]
      · simp only [View.lostConnection, View.databasesFault, lost, Bool.false_eq_true, ↓reduceIte]
        rfl
    exact ⟨listed ends, fun _ => rfl⟩
  | ok found =>
    have escaped : escape? (verdict answers.lost?
        ({ tables := answers.chosen fun table => selector.coversTable table.dataset
           failures := answers.failures } : Selection)) = answers.lost? := by
      cases ended : answers.lost? with
      | none => rfl
      | some fault =>
        exact if_neg (Bool.eq_false_iff.mp
          (FaultKind.not_listing_of_connectionFailure (TableAnswers.isA_of_lost? ended)))
    rw [escaped]
    refine ⟨?_, fun goesOn => ?_⟩
    · have due : selector.choiceCalls (Deeds.databases
          (.said (.databases (.ok found)) :: answers.deeds)) =
          [.databases] ++ (found.filter selector.databases.covers).map .tables := by
        rw [← List.singleton_append, databases_append, answers.databases_deeds]
        simp [Deeds.databases, talk, Deed.exchange?, Exchange.listedDatabases, Selector.choiceCalls]
      rw [due]
      exact (listed rfl).append (turn.conduct rules []) (List.subset_append_left _ _)
    · rw [goesOn]
      exact answers.chosen_eq _

/-- The choice of tables, under a lease. -/
theorem choose_follows {watching : ScanServices (Watched σ)} {services : ScanServices σ}
    (watch : watching.Watch services) :
    Follows (Scan.choose watching selector) (Scan.choose services selector) fun deeds answer =>
      Chosen selector rules false deeds (fault? answer)
        ((answer.toOption.bind (·.toOption)).getD {}).tables := by
  unfold Scan.choose
  refine (watch.lease fun client => select_chooses selector rules).attempt_bind ?_
  rintro _ answer (⟨fault, rfl, rfl, lost⟩ | ⟨inside, rfl, during⟩)
  · simp only [FaultKind.not_listing_of_connectionFailure lost, Bool.false_eq_true, ↓reduceIte]
    exact follows_throw fault ⟨.refused rules [] _ fault, nofun⟩
  · have chosen := during.under_lease
    cases answer with
    | ok selection =>
      refine follows_pure _ ?_
      rw [List.append_nil]
      exact chosen
    | error fault =>
      by_cases unlisted : fault.kind.isA .listing = true
      · simp only [escape?, unlisted, ↓reduceIte] at chosen ⊢
        refine (follows_note _ _ _).after_silent fun _ => follows_pure _ ?_
        rw [List.append_nil]
        exact chosen
      · simp only [escape?, unlisted, Bool.false_eq_true, ↓reduceIte] at chosen ⊢
        refine follows_throw fault ?_
        rw [List.append_nil]
        exact chosen

end Choice

section Tables

/-- A part of a scan that holds no lease at its beginning, nor at its end. -/
def Conducts {α : Type} (rules : ScanRules) (known : List Entity) (due : List Question)
    (watching : Act (Watched σ) α) (plain : Act σ α) : Prop :=
  Follows watching plain fun deeds answer => Conduct rules false known due deeds (fault? answer)

variable {α β : Type} {rules : ScanRules} {known : List Entity} {due further : List Question}

theorem conducts_pure (value : α) :
    Conducts rules known [] (pure value : Act (Watched σ) α) (pure value) :=
  follows_pure value (.nil rules false known)

/-- The calls of two parts in a row are due one after the other. -/
theorem Conducts.bind {watching : Act (Watched σ) α} {plain : Act σ α}
    {next : α → Act (Watched σ) β} {following : α → Act σ β}
    (first : Conducts rules known due watching plain)
    (rest : ∀ value, Conducts rules known further (next value) (following value)) :
    Conducts rules known (due ++ further) (watching >>= next) (plain >>= following) := by
  refine Follows.bind first ?_ fun deeds fault conduct => conduct.stopped further
  intro deeds value conduct
  refine (rest value).imp fun more answer later => ?_
  exact conduct.append later (List.subset_append_left _ _)

/-- What follows without a call leaves the calls that are due as they are. -/
theorem Conducts.then {watching : Act (Watched σ) α} {plain : Act σ α}
    {next : α → Act (Watched σ) β} {following : α → Act σ β}
    (first : Conducts rules known due watching plain)
    (rest : ∀ value, Conducts rules known [] (next value) (following value)) :
    Conducts rules known due (watching >>= next) (plain >>= following) := by
  have whole := first.bind rest
  rwa [List.append_nil] at whole

theorem Conducts.mapM {act : α → Act (Watched σ) β} {plain : α → Act σ β}
    {calls : α → List Question} {items : List α}
    (each : ∀ item ∈ items, Conducts rules known (calls item) (act item) (plain item)) :
    Conducts rules known (items.flatMap calls) (items.mapM act) (items.mapM plain) := by
  induction items with
  | nil => exact conducts_pure []
  | cons item others ih =>
    rw [List.mapM_cons, List.mapM_cons, List.flatMap_cons]
    refine (each item List.mem_cons_self).bind fun value => ?_
    refine (ih fun other member => each other (List.mem_cons_of_mem item member)).then ?_
    exact fun values => conducts_pure _

variable {watching : ScanServices (Watched σ)} {services : ScanServices σ}

/-- The partitions of a table are listed; those that are listed are known. -/
def Lists (rules : ScanRules) (leased : Bool) (known : List Entity) (table : Table)
    (deeds : Deeds) (answer : Except Fault (List Partition)) : Prop :=
  Conduct rules leased known [.partitions table] deeds (escape? answer) ∧
    (answer.toOption.getD []).map .partition ⊆ deeds.entities

theorem fetchPartitions_follows (client : Client σ) (rules : ScanRules) (known : List Entity)
    (table : Table) :
    Follows (Scan.fetchPartitions table client.watched) (Scan.fetchPartitions table client)
      (Lists rules true known table) := by
  have called : Follows (client.watched.listPartitions table) (client.listPartitions table)
      fun done answer => done = [.said (.partitions table answer)] := fun _ _ => ⟨_, rfl, rfl⟩
  unfold Scan.fetchPartitions
  refine called.attempt_bind ?_
  rintro _ answer rfl
  have conduct {ending : Option Fault} (ends : View.lostConnection answer = ending) :
      Conduct rules true known [.partitions table] [.said (.partitions table answer)] ending :=
    .call (.partitions table answer) rfl ends rules known
  cases answer with
  | ok listed =>
    refine follows_pure _ ⟨conduct rfl, ?_⟩
    exact fun entity member => List.mem_append_left _ member
  | error fault =>
    by_cases lost : fault.kind.isA .connectionFailure = true
    · simp only [lost, ↓reduceIte]
      refine follows_throw _ ⟨conduct ?_, List.nil_subset _⟩
      simp [escape?, View.lostConnection, lost, FaultKind.not_listing_of_connectionFailure lost]
    · simp only [lost, Bool.false_eq_true, ↓reduceIte]
      exact follows_throw _ ⟨conduct (if_neg lost), List.nil_subset _⟩

theorem listPartitions_follows (watch : watching.Watch services) (rules : ScanRules)
    (known : List Entity) (table : Table) :
    Follows (Scan.listPartitions watching table) (Scan.listPartitions services table)
      (Lists rules false known table) := by
  have leased : Follows (watching.lease (Scan.fetchPartitions table))
      (services.lease (Scan.fetchPartitions table)) (Lists rules false known table) := by
    refine (watch.lease fun client => fetchPartitions_follows client rules known table).imp ?_
    rintro _ answer (⟨fault, rfl, rfl, lost⟩ | ⟨inside, rfl, conduct, listed⟩)
    · refine ⟨?_, List.nil_subset _⟩
      simp only [escape?, FaultKind.not_listing_of_connectionFailure lost, Bool.false_eq_true,
        ↓reduceIte]
      exact .refused rules known _ fault
    · refine ⟨conduct.under_lease, ?_⟩
      rw [entities_under_lease]
      exact listed
  unfold Scan.listPartitions
  refine leased.bind ?_ ?_
  · rintro deeds partitions ⟨conduct, listed⟩
    -- Partitions that do not fit their table make a failure to list of an answer that is none.
    cases partitions.find? fun partition =>
        partition.values.length ≠ table.partitionKeys.length with
    | some partition =>
      refine follows_throw _ ?_
      rw [List.append_nil]
      exact ⟨conduct, List.nil_subset _⟩
    | none =>
      refine follows_pure _ ?_
      rw [List.append_nil]
      exact ⟨conduct, listed⟩
  · exact fun deeds fault lists => ⟨lists.1, List.nil_subset _⟩

theorem evaluate_conducts (watch : watching.Watch services) (table : Table) (prior : Option Int)
    (now : Int) {entity : Entity} (member : entity ∈ known)
    (seen : rules.passesOver entity.location = false) :
    Conducts rules known [] (Scan.evaluate watching rules table prior now entity)
      (Scan.evaluate services rules table prior now entity) := by
  unfold Scan.evaluate
  refine (watch.updateTime entity).attempt_bind ?_
  rintro _ answer rfl
  have conduct {ending : Option Fault}
      (ends : (Exchange.updateTime entity answer).stop? = ending) :
      Conduct rules false known [] [.said (.updateTime entity answer)] ending :=
    .look member seen ends
  cases answer with
  | ok updateTime => exact follows_pure _ (conduct rfl)
  | error fault =>
    by_cases missing : fault.kind.isA .updateTimeNotFound = true
    · simp only [missing, ↓reduceIte]
      exact (follows_record _).after_silent fun _ => follows_pure _ (conduct (if_pos missing))
    · simp only [missing, Bool.false_eq_true, ↓reduceIte]
      exact follows_throw fault (conduct (if_neg missing))

/-- Whether something is passed over is told from its location, or else the scan is ended. -/
theorem conducts_unless_ignored {entity : Entity} (member : entity ∈ known)
    {next : Bool → Act (Watched σ) α} {following : Bool → Act σ α}
    (rest : Conducts rules known due (next (rules.passesOver entity.location))
      (following (rules.passesOver entity.location))) :
    Conducts rules known due (settle (rules.ignores entity.location) >>= next)
      (settle (rules.ignores entity.location) >>= following) := by
  refine Follows.after_settle ?_ ?_
  · intro passed given
    have same : rules.passesOver entity.location = passed := by
      rw [ScanRules.passesOver, given]
      rfl
    exact same ▸ rest
  · exact fun fault unclear => .unclear member unclear false due

theorem evaluatePartition_conducts (watch : watching.Watch services) (table : Table)
    (prior : Option Int) (now : Int) {partition : Partition}
    (member : .partition partition ∈ known) :
    Conducts rules known [] (Scan.evaluatePartition watching rules table prior now partition)
      (Scan.evaluatePartition services rules table prior now partition) := by
  unfold Scan.evaluatePartition
  refine conducts_unless_ignored member ?_
  cases seen : rules.passesOver (Entity.partition partition).location with
  | true => exact (follows_record _).after_silent fun _ => conducts_pure _
  | false => exact evaluate_conducts watch table prior now member seen

theorem scanPartitions_conducts (watch : watching.Watch services) (table : Table)
    (prior : Option Int) (now : Int) {partitions : List Partition}
    (listed : partitions.map .partition ⊆ known) :
    Conducts rules known [] (Scan.scanPartitions watching rules table prior now partitions)
      (Scan.scanPartitions services rules table prior now partitions) := by
  have evaluated : Conducts rules known (partitions.flatMap fun _ => [])
      (partitions.mapM (Scan.evaluatePartition watching rules table prior now))
      (partitions.mapM (Scan.evaluatePartition services rules table prior now)) :=
    .mapM fun partition member =>
      evaluatePartition_conducts watch table prior now (listed (List.mem_map_of_mem member))
  rw [List.flatMap_eq_nil_iff.mpr fun _ _ => rfl] at evaluated
  unfold Scan.scanPartitions
  exact evaluated.then fun _ => (follows_record _).after_silent fun _ => conducts_pure _

theorem scanPartitioned_conducts (watch : watching.Watch services) (table : Table)
    (prior : Option Int) (now : Int) :
    Conducts rules known [.partitions table] (Scan.scanPartitioned watching rules table prior now)
      (Scan.scanPartitioned services rules table prior now) := by
  unfold Scan.scanPartitioned
  refine (listPartitions_follows watch rules known table).attempt_bind ?_
  rintro deeds answer ⟨conduct, listed⟩
  cases answer with
  | ok partitions =>
    refine (scanPartitions_conducts watch table prior now (List.Subset.refl _)).imp ?_
    intro more outcome later
    exact conduct.append later (List.Subset.trans listed (List.subset_append_right _ _))
  | error fault =>
    by_cases unlisted : fault.kind.isA .listing = true
    · simp only [escape?, unlisted, ↓reduceIte] at conduct ⊢
      refine (follows_record _).after_silent fun _ => follows_pure _ ?_
      rw [List.append_nil]
      exact conduct
    · simp only [escape?, unlisted, Bool.false_eq_true, ↓reduceIte] at conduct ⊢
      refine follows_throw fault ?_
      rw [List.append_nil]
      exact conduct

/-- The calls of the scan of a table: its partitions are listed once, if they are at all. -/
theorem scanTable_conducts (watch : watching.Watch services) (now : Int) (prior : Option Int)
    {table : Table} (member : .table table ∈ known) :
    Conducts rules known (table.calls rules) (Scan.scanTable watching rules now prior table)
      (Scan.scanTable services rules now prior table) := by
  unfold Scan.scanTable Table.calls Table.isOpened
  refine conducts_unless_ignored member ?_
  cases seen : rules.passesOver (Entity.table table).location with
  | true =>
    have passed : rules.passesOver table.location = true := seen
    simp only [passed, Bool.not_true, Bool.and_false, Bool.false_eq_true, ↓reduceIte]
    exact (follows_record _).after_silent fun _ => conducts_pure _
  | false =>
    have opened : rules.passesOver table.location = false := seen
    simp only [opened, Bool.not_false, Bool.and_true, Bool.false_eq_true, ↓reduceIte]
    cases table.isPartitioned with
    | true =>
      exact (scanPartitioned_conducts watch table prior now).then fun outcome =>
        (follows_record _).after_silent fun _ => conducts_pure outcome
    | false =>
      have whole : Conducts rules known [] (Scan.scanWhole watching rules table prior now)
          (Scan.scanWhole services rules table prior now) :=
        (evaluate_conducts watch table prior now member seen).then fun _ => conducts_pure _
      exact whole.then fun outcome => (follows_record _).after_silent fun _ => conducts_pure outcome

/-- A scheduler with its services under watch. -/
def Scheduler.under (scheduler : Scheduler σ) (watching : ScanServices (Watched σ)) :
    Scheduler (Watched σ) where
  services := watching
  selector := scheduler.selector
  rules := scheduler.rules
  tableWorkers := scheduler.tableWorkers
  partitionWorkers := scheduler.partitionWorkers

/-- The tables of a scan are dealt with one after the other. -/
theorem scanSelection_conducts {scheduler : Scheduler σ}
    (watch : watching.Watch scheduler.services) (selection : Selection) (priors : Watermarks)
    (now : Int) :
    Conducts scheduler.rules (selection.tables.map .table)
      ((selection.tables.filter (·.isOpened scheduler.rules)).map .partitions)
      (Scan.scanSelection (scheduler.under watching) selection priors now)
      (Scan.scanSelection scheduler selection priors now) := by
  rw [← Table.flatMap_calls]
  have scanned : Conducts scheduler.rules (selection.tables.map .table)
      (selection.tables.flatMap (·.calls scheduler.rules))
      (Scan.scanTables watching scheduler.rules priors now selection.tables)
      (Scan.scanTables scheduler.services scheduler.rules priors now selection.tables) :=
    .mapM fun table member => scanTable_conducts watch now _ (List.mem_map_of_mem member)
  have gathered := scanned.then fun outcomes => conducts_pure
    (ScanResult.ofOutcomes (selection.failures.map Scan.listingFailure)
      (selection.tables.zip outcomes))
  have workers : (scheduler.under watching).tableWorkers = scheduler.tableWorkers := rfl
  unfold Scan.scanSelection
  rw [workers]
  split
  · exact (follows_note _ _ _).after_silent fun _ => gathered
  · exact gathered

/-- **The conduct of a scan**: it makes the calls that are due for the databases and the tables that
are listed, in this order, and looks only at what is listed. -/
theorem run_follows {scheduler : Scheduler σ} (watch : watching.Watch scheduler.services)
    (selector : Selector) (priors : Watermarks) (now : Int) :
    Follows (Scan.run (scheduler.under watching) selector priors now)
      (Scan.run scheduler selector priors now) fun deeds answer =>
        Conduct scheduler.rules false []
          (selector.agenda scheduler.rules deeds.databases deeds.tables) deeds (fault? answer) := by
  unfold Scan.run Scan.announce
  refine Follows.after_silent watch.clock fun started => ?_
  refine (follows_note _ _ _).after_silent fun _ => ?_
  refine (choose_follows selector scheduler.rules watch).bind ?_ ?_
  · rintro deeds choice ⟨conduct, chosen⟩
    cases choice with
    | error failure =>
      refine follows_pure _ ?_
      have none : (deeds.tables.filter fun table => selector.coversTable table.dataset) = [] :=
        (chosen rfl).symm
      rw [List.append_nil, Selector.agenda, none]
      exact (List.append_nil _).symm ▸ conduct
    | ok selection =>
      refine Follows.imp ((scanSelection_conducts watch selection priors now).then fun result =>
        Follows.after_silent watch.clock fun ended =>
          (follows_note _ _ _).after_silent fun _ => conducts_pure result) ?_
      intro more answer later
      obtain ⟨unlisted, listed⟩ := listed_of_calls fun question made => by
        obtain ⟨table, _, same⟩ := List.mem_map.mp (later.calls.subset made)
        exact ⟨table, same.symm⟩
      have due : selector.agenda scheduler.rules (Deeds.databases (deeds ++ more))
          (Deeds.tables (deeds ++ more)) = selector.choiceCalls deeds.databases ++
            (selection.tables.filter (·.isOpened scheduler.rules)).map .partitions := by
        rw [databases_append, tables_append, unlisted, listed, List.append_nil, List.append_nil,
          Selector.agenda, ← chosen rfl]
        rfl
      rw [due]
      refine conduct.append later ?_
      have covered : selection.tables = _ := chosen rfl
      rw [covered]
      exact List.Subset.trans (List.map_subset _ (List.filter_subset_self _))
        (tables_subset_entities deeds)
  · rintro deeds fault ⟨conduct, _⟩
    exact conduct.stopped _

end Tables

/-- If nothing is listed twice, nothing is due twice. -/
theorem Selector.agenda_nodup (selector : Selector) (rules : ScanRules) {databases : List String}
    {tables : List Table} (databasesOnce : databases.Nodup) (tablesOnce : tables.Nodup) :
    (selector.agenda rules databases tables).Nodup := by
  have ofDatabases : ((databases.filter selector.databases.covers).map Question.tables).Nodup :=
    (databasesOnce.filter _).map fun _ _ same => Question.tables.inj same
  have ofTables : (((tables.filter fun table => selector.coversTable table.dataset).filter
      (·.isOpened rules)).map Question.partitions).Nodup :=
    ((tablesOnce.filter _).filter _).map fun _ _ same => Question.partitions.inj same
  rw [agenda, choiceCalls, List.cons_append, List.nodup_cons, List.nodup_append]
  refine ⟨?_, ofDatabases, ofTables, ?_⟩
  · simp
  · rintro _ early _ late rfl
    obtain ⟨database, _, rfl⟩ := List.mem_map.mp early
    obtain ⟨table, _, same⟩ := List.mem_map.mp late
    exact nomatch same

/-- The deeds of a scan keep to its agenda: the calls are the first ones on it, and all of them
unless a deed ends the scan. -/
structure Deeds.KeepTo (deeds : Deeds) (selector : Selector) (rules : ScanRules)
    (answer : Except Fault ScanResult) : Prop where
  leases : Leased false deeds
  calls : deeds.calls <+: selector.agenda rules deeds.databases deeds.tables
  /-- No call is made again, unless something is listed twice. -/
  once : deeds.databases.Nodup → deeds.tables.Nodup → deeds.calls.Nodup
  /-- If no deed ends the scan, all calls on the agenda are made, and there is a result. -/
  whole : deeds.Quiet → (∀ entity ∈ deeds.entities, Placed entity.location) →
    deeds.calls = selector.agenda rules deeds.databases deeds.tables ∧ ∃ result, answer = .ok result
  /-- If a deed ends the scan, nothing is called after it. -/
  cut : ¬ deeds.Quiet → ∃ fault, Stops deeds fault ∧ answer = .error fault

theorem Deeds.Stops.not_quiet {deeds : Deeds} {fault : Fault} (stops : Stops deeds fault) :
    ¬ deeds.Quiet := by
  obtain ⟨before, last, after, rfl, _, ends, _⟩ := stops
  intro quiet
  rw [quiet last (List.mem_append_right before List.mem_cons_self)] at ends
  exact nomatch ends

theorem Conduct.keepTo {selector : Selector} {rules : ScanRules} {deeds : Deeds}
    {answer : Except Fault ScanResult}
    (conduct : Conduct rules false [] (selector.agenda rules deeds.databases deeds.tables) deeds
      (fault? answer)) : deeds.KeepTo selector rules answer where
  leases := conduct.leases
  calls := conduct.calls
  once databasesOnce tablesOnce :=
    (selector.agenda_nodup rules databasesOnce tablesOnce).sublist conduct.calls.sublist
  whole quiet placed := by
    cases answer with
    | ok result => exact ⟨(conduct.goesOn rfl).1, result, rfl⟩
    | error fault =>
      rcases conduct.ends fault rfl with stops | ⟨_, entity, listed, unclear⟩
      · exact absurd quiet stops.not_quiet
      · rw [rules.ignores_of_placed (placed entity listed)] at unclear
        exact nomatch unclear
  cut loud := by
    cases answer with
    | ok result => exact absurd (conduct.goesOn rfl).2 loud
    | error fault =>
      rcases conduct.ends fault rfl with stops | ⟨quiet, _⟩
      · exact ⟨fault, stops, rfl⟩
      · exact absurd quiet loud

/-- **A scan makes each call once and in order.** Whatever the clients of a pool answer and whatever
becomes of its leases, a scan under watch ends as the scan itself does, and its deeds keep to the
agenda: the databases are listed, then the tables of each database that is covered, then the
partitions of each table that is chosen, has partition keys and is not passed over, all in the order
of the catalog. Every call is made under a lease, and no two leases are open at a time. -/
theorem Scan.makes_calls_in_order {κ : Type} [DecidableEq κ] (host : Pool.Host σ κ)
    (updateTime : Entity → Act σ Int) (clock : σ → Int) (selector : Selector) (rules : ScanRules)
    (priors : Watermarks) (now : Int) :
    let scheduler : Scheduler σ := { services := host.services updateTime clock, selector, rules }
    let watched := scheduler.under (host.watchedServices updateTime clock)
    Follows (Scan.run watched selector priors now) (Scan.run scheduler selector priors now)
      fun deeds answer => deeds.KeepTo selector rules answer := by
  intro scheduler watched
  have watch : (host.watchedServices updateTime clock).Watch scheduler.services :=
    Pool.Host.watchedServices_watch updateTime clock
  exact (run_follows watch selector priors now).imp fun _ _ conduct => conduct.keepTo

end CatalogDelta
