import CatalogDelta.Proofs.Pool.Record

/-!
# What a scan says

Let the calls of the clients and the questions for update times be on record. Then every part of a
scan accounts for what it says: its talk settles the questions it was to ask, those to which they
lead are asked or left over, and the failures of its answer are those of the talk. Only a lost
connection, or a client that cannot be made, cuts a talk short.
-/

namespace CatalogDelta

open Act

/-- Whether something at a location is passed over is always settled. -/
theorem ScanRules.ignores_of_placed (rules : ScanRules) {location : Data}
    (placed : Placed location) : rules.ignores location = .ok (rules.passesOver location) := by
  have settled : ∃ answer, rules.ignores location = .ok answer := by
    cases placed with
    | nowhere => exact ⟨false, rfl⟩
    | text place =>
      rw [ignores, mentionsAny_text]
      split
      · exact ⟨false, rfl⟩
      · exact ⟨_, rfl⟩
  obtain ⟨answer, same⟩ := settled
  rw [passesOver, same]
  rfl

/-- A lost connection is no want of an update time. -/
theorem FaultKind.not_updateTimeNotFound_of_connectionFailure {kind : FaultKind}
    (lost : kind.isA .connectionFailure = true) : kind.isA .updateTimeNotFound = false := by
  cases kind with
  | connectionFailure => rfl
  | other name => simp [isA, lineage, lineage.go, parent] at lost
  | _ => exact absurd lost (by decide)

/-- A lease converses as the work under it, after the making of a client if there is one; update
times are asked for on record; and the clock is quiet. -/
structure ScanServices.Talks {σ : Type} (services : ScanServices σ) (heard : σ → List Exchange)
    (ready : σ → Prop) : Prop where
  lease : ∀ {α : Type} (work : Client σ → Act σ α) (after : List Exchange → Except Fault α → Prop),
    (∀ (held : σ → Prop) (client : Client σ), client.Talks heard held →
      Converses heard held (work client) after) →
    Converses heard ready (services.lease work) fun talk answer =>
      ∃ made rest, AtMostMaking made ∧ talk = made ++ rest ∧ after rest answer
  updateTime : ∀ entity,
    Converses heard ready (services.updateTime entity) (Said (.updateTime entity))
  clock : Converses heard ready services.clock (Answered fun talk _ => talk = [])

/-- The choice of tables accounts for a talk: what fails is recorded, and the questions about the
chosen tables are left. -/
structure Selection.Accounts (selection : Selection) (selector : Selector) (rules : ScanRules)
    (asked : List Question) (talk : List Exchange) : Prop where
  placed : ∀ table ∈ selection.tables, Placed table.location
  account : Account selector rules asked talk (selection.failures.map Scan.listingFailure)
    (selection.tables.flatMap (·.questions rules))

section Choice

variable {σ : Type} {heard : σ → List Exchange} {held ready : σ → Prop}

theorem Selection.Accounts.beside {selector : Selector} {rules : ScanRules}
    {first second : Selection} {asked others : List Question} {talk more : List Exchange}
    (one : first.Accounts selector rules asked talk)
    (two : second.Accounts selector rules others more) :
    ({ tables := first.tables ++ second.tables
       failures := first.failures ++ second.failures } : Selection).Accounts selector rules
      (asked ++ others) (talk ++ more) where
  placed table member := (List.mem_append.mp member).elim (one.placed table) (two.placed table)
  account := by
    rw [List.map_append, List.flatMap_append]
    exact one.account.beside two.account

/-- A listing that is not lost is settled. -/
theorem listing_converses {α : Type} {act : Act σ α} {exchange : Except Fault α → Exchange}
    (first : Converses heard held act (Said exchange))
    (loss : ∀ answer, (exchange answer).loss? = View.lostConnection answer) :
    Converses heard held (Selector.listing act)
      (Answered fun talk settled => talk = [exchange settled] ∧ (exchange settled).Sound) := by
  unfold Selector.listing
  refine first.attempt_bind ?_ ?_
  · rintro talk answer ⟨rfl, sound, kept⟩
    cases answer with
    | ok value => exact converses_pure _ ⟨_, rfl, rfl, sound⟩
    | error fault =>
      have passed : ¬ fault.kind.isA .connectionFailure = true := by
        rw [loss] at kept
        exact fun lost => absurd ((if_pos lost).symm.trans kept) (Option.some_ne_none fault)
      simp only [passed, Bool.false_eq_true, ↓reduceIte]
      exact converses_pure _ ⟨_, rfl, rfl, sound⟩
  · intro fault lost
    simp only [lost, ↓reduceIte]

theorem selectTables_converses {client : Client σ} (talks : client.Talks heard held)
    (selector : Selector) (rules : ScanRules) (database : String) :
    Converses heard held (selector.selectTables client database)
      (Answered fun talk outcome =>
        (({} : Selection).add outcome).Accounts selector rules [.tables database] talk) := by
  unfold Selector.selectTables
  refine (listing_converses (talks.tables database) fun _ => rfl).bind_answer ?_
  rintro talk settled ⟨rfl, sound⟩
  cases settled with
  | error cause =>
    exact .after_note _ _ _ (converses_pure _ ⟨_, rfl,
      fun table member => absurd member List.not_mem_nil, Account.single rfl⟩)
  | ok tables =>
    refine .after_note _ _ _ (converses_pure _ ⟨_, rfl, fun table member => ?_, ?_⟩)
    · exact sound table (List.mem_of_mem_filter member)
    · exact Account.single rfl

theorem selectAmong_converses {client : Client σ} (talks : client.Talks heard held)
    (selector : Selector) (rules : ScanRules) (databases : List String) (selection : Selection) :
    Converses heard held (selector.selectAmong client databases selection)
      (Answered fun talk chosen => ∃ more : Selection,
        chosen = { tables := selection.tables ++ more.tables
                   failures := selection.failures ++ more.failures } ∧
          more.Accounts selector rules (databases.map .tables) talk) := by
  induction databases generalizing selection with
  | nil =>
    refine converses_pure selection ⟨_, rfl, {}, ?_, ?_⟩
    · simp only [List.append_nil]
    · exact ⟨fun table member => absurd member List.not_mem_nil, Account.nil []⟩
  | cons database others ih =>
    refine (selectTables_converses talks selector rules database).bind_answer ?_
    intro talk outcome first
    refine (ih (selection.add outcome)).imp ?_
    rintro rest answer ⟨chosen, rfl, more, rfl, second⟩
    refine ⟨_, rfl, _, ?_, first.beside second⟩
    cases outcome <;> simp [Selection.add]

/-- The answer to the question for databases accounts for a talk: the questions for their tables are
left, or a failure of the whole catalog is recorded. -/
def DatabasesTold (selector : Selector) (rules : ScanRules) (talk : List Exchange) :
    Except Fault (List String) → Prop
  | .ok databases => Account selector rules [.databases] talk [] (databases.map .tables)
  | .error fault => fault.kind.isA .listing = true ∧
      Account selector rules [.databases] talk [Scan.wholeFailure fault] []

theorem selectDatabases_converses {client : Client σ} (talks : client.Talks heard held)
    (selector : Selector) (rules : ScanRules) :
    Converses heard held (selector.selectDatabases client) (DatabasesTold selector rules) := by
  unfold Selector.selectDatabases
  refine (listing_converses talks.databases fun _ => rfl).bind_answer ?_
  rintro talk settled ⟨rfl, _⟩
  cases settled with
  | ok databases => exact converses_pure _ (Account.single rfl)
  | error cause => exact converses_throw _ ⟨rfl, Account.single rfl⟩

/-- The choice of tables under a lease, as it accounts for a talk. -/
def TablesTold (selector : Selector) (rules : ScanRules) (talk : List Exchange) :
    Except Fault Selection → Prop
  | .ok selection => selection.Accounts selector rules [.databases] talk
  | .error fault => fault.kind.isA .listing = true ∧
      Account selector rules [.databases] talk [Scan.wholeFailure fault] []

theorem select_converses {client : Client σ} (talks : client.Talks heard held)
    (selector : Selector) (rules : ScanRules) :
    Converses heard held (selector.select client) (TablesTold selector rules) := by
  unfold Selector.select
  refine (selectDatabases_converses talks selector rules).bind ?_ fun _ _ told => told
  intro talk databases opened
  refine (selectAmong_converses talks selector rules databases {}).imp ?_
  rintro rest answer ⟨chosen, rfl, more, rfl, placed, account⟩
  exact ⟨placed, opened.append account⟩

/-- A scan begins with tables to look at, or with the failure of the whole catalog. -/
def ChoiceTold (selector : Selector) (rules : ScanRules) (talk : List Exchange) :
    Except ScanFailure Selection → Prop
  | .ok selection => selection.Accounts selector rules [.databases] talk
  | .error failure => Account selector rules [.databases] talk [failure] []

theorem choose_converses {services : ScanServices σ} (talks : services.Talks heard ready)
    (selector : Selector) (rules : ScanRules) :
    Converses heard ready (Scan.choose services selector)
      (Answered (ChoiceTold selector rules)) := by
  unfold Scan.choose
  refine (talks.lease _ _ fun held client talks =>
    select_converses talks selector rules).attempt_bind ?_ ?_
  · rintro _ answer ⟨made, rest, mostly, rfl, told⟩
    cases answer with
    | ok selection =>
      exact converses_answered ⟨told.placed, told.account.after_making mostly⟩
    | error fault =>
      obtain ⟨listing, account⟩ := told
      simp only [listing, ↓reduceIte]
      exact .after_note _ _ _ (converses_answered (account.after_making mostly))
  · intro fault lost
    simp only [FaultKind.not_listing_of_connectionFailure lost, Bool.false_eq_true, ↓reduceIte]

end Choice

section Tables

variable {σ : Type} {heard : σ → List Exchange} {ready : σ → Prop} {services : ScanServices σ}

/-- The act answers, and its talk settles some questions with the failures of the answer. -/
def Clears {α : Type} (selector : Selector) (rules : ScanRules) (asked : List Question)
    (failures : α → List ScanFailure) : List Exchange → Except Fault α → Prop :=
  Answered fun talk value => Account selector rules asked talk (failures value) []

theorem clears_mapM {α β : Type} {selector : Selector} {rules : ScanRules} {act : α → Act σ β}
    {asked : α → List Question} {failures : β → List ScanFailure} {items : List α}
    (each : ∀ item ∈ items,
      Converses heard ready (act item) (Clears selector rules (asked item) failures)) :
    Converses heard ready (items.mapM act) (Answered fun talk values =>
      values.length = items.length ∧
        Account selector rules (items.flatMap asked) talk (values.flatMap failures) []) := by
  induction items with
  | nil => exact converses_pure [] ⟨_, rfl, rfl, .nil []⟩
  | cons item others ih =>
    rw [List.mapM_cons]
    refine (each item List.mem_cons_self).bind_answer ?_
    intro talk value first
    refine (ih fun other member => each other (List.mem_cons_of_mem item member)).bind_answer ?_
    rintro rest values ⟨same, account⟩
    refine converses_pure _ ⟨_, rfl, congrArg (· + 1) same, ?_⟩
    rw [List.append_nil]
    exact first.beside account

theorem evaluate_converses (talks : services.Talks heard ready) (selector : Selector)
    (rules : ScanRules) (table : Table) (prior : Option Int) (now : Int) (entity : Entity) :
    Converses heard ready (Scan.evaluate services rules table prior now entity)
      (Clears selector rules [.updateTime entity] (·.failures)) := by
  unfold Scan.evaluate
  refine (talks.updateTime entity).attempt_bind ?_ ?_
  · rintro talk answer ⟨rfl, sound, _⟩
    cases answer with
    | ok updateTime => exact converses_pure _ ⟨_, rfl, Account.single rfl⟩
    | error fault =>
      have missing : fault.kind.isA .updateTimeNotFound = true := sound
      simp only [missing, ↓reduceIte]
      exact .after_record _ (converses_pure _ ⟨_, rfl, Account.single rfl⟩)
  · intro fault lost
    simp only [FaultKind.not_updateTimeNotFound_of_connectionFailure lost, Bool.false_eq_true,
      ↓reduceIte]

theorem evaluatePartition_converses (talks : services.Talks heard ready) (selector : Selector)
    (rules : ScanRules) (table : Table) (prior : Option Int) (now : Int) {partition : Partition}
    (placed : Placed partition.location) :
    Converses heard ready (Scan.evaluatePartition services rules table prior now partition)
      (Clears selector rules (partition.questions rules) (·.failures)) := by
  unfold Scan.evaluatePartition Partition.questions
  refine .after_settle (rules.ignores_of_placed placed) ?_
  cases rules.passesOver partition.location with
  | true => exact .after_record _ (converses_pure _ ⟨_, rfl, .nil []⟩)
  | false => exact evaluate_converses talks selector rules table prior now (.partition partition)

/-- The partitions of a table, as their listing accounts for a talk. -/
def PartitionsTold (selector : Selector) (rules : ScanRules) (table : Table)
    (talk : List Exchange) : Except Fault (List Partition) → Prop
  | .ok partitions => (∀ partition ∈ partitions, Placed partition.location) ∧
      Account selector rules [.partitions table] talk [] (partitions.flatMap (·.questions rules))
  | .error fault => fault.kind.isA .listing = true ∧
      Account selector rules [.partitions table] talk
        [⟨table.dataset.urn, .catalogListingFailure, fault.described⟩] []

theorem fetchPartitions_converses {held : σ → Prop} {client : Client σ}
    (talks : client.Talks heard held) (table : Table) :
    Converses heard held (Scan.fetchPartitions table client) fun talk answer =>
      ∃ settled, talk = [.partitions table settled] ∧ (Exchange.partitions table settled).Sound ∧
        answer = settled.mapError (Scan.listingFault table) := by
  unfold Scan.fetchPartitions
  refine (talks.partitions table).attempt_bind ?_ ?_
  · rintro talk answer ⟨rfl, sound, kept⟩
    cases answer with
    | ok partitions => exact converses_pure _ ⟨_, rfl, sound, rfl⟩
    | error fault =>
      have passed : ¬ fault.kind.isA .connectionFailure = true := fun lost =>
        absurd ((if_pos lost).symm.trans kept) (Option.some_ne_none fault)
      simp only [passed, Bool.false_eq_true, ↓reduceIte]
      exact converses_throw _ ⟨_, rfl, sound, rfl⟩
  · intro fault lost
    simp only [lost, ↓reduceIte]

theorem listPartitions_converses (talks : services.Talks heard ready) (selector : Selector)
    (rules : ScanRules) (table : Table) :
    Converses heard ready (Scan.listPartitions services table)
      (PartitionsTold selector rules table) := by
  unfold Scan.listPartitions
  refine (talks.lease _ _ fun held client talks => fetchPartitions_converses talks table).bind ?_ ?_
  · rintro _ partitions ⟨made, _, mostly, rfl, settled, rfl, sound, same⟩
    cases settled with
    | error cause => contradiction
    | ok listed =>
      -- Partitions that do not fit their table make a failure of an answer that is none itself.
      obtain rfl := Except.ok.inj same
      have unfit : (partitions.find? fun partition =>
          partition.values.length ≠ table.partitionKeys.length) = table.misfit? partitions := rfl
      rw [unfit]
      cases misfit : table.misfit? partitions with
      | some partition =>
        refine converses_throw _ ⟨rfl, ?_⟩
        rw [List.append_nil]
        exact (Account.misfitting misfit).after_making mostly
      | none =>
        refine converses_pure _ ⟨sound, ?_⟩
        rw [List.append_nil]
        exact (Account.fitting misfit).after_making mostly
  · rintro _ fault ⟨made, _, mostly, rfl, settled, rfl, _, same⟩
    cases settled with
    | ok listed => contradiction
    | error cause =>
      obtain rfl := Except.error.inj same
      exact ⟨rfl, (Account.single rfl).after_making mostly⟩

theorem scanPartitions_converses (talks : services.Talks heard ready) (selector : Selector)
    (rules : ScanRules) (table : Table) (prior : Option Int) (now : Int)
    {partitions : List Partition} (placed : ∀ partition ∈ partitions, Placed partition.location) :
    Converses heard ready (Scan.scanPartitions services rules table prior now partitions)
      (Clears selector rules (partitions.flatMap (·.questions rules)) (·.failures)) := by
  unfold Scan.scanPartitions
  refine (clears_mapM fun partition member => evaluatePartition_converses talks selector rules table
    prior now (placed partition member)).bind_answer ?_
  rintro talk evaluations ⟨same, account⟩
  refine .after_record _ (converses_answered ?_)
  have failures : (partitions.zip evaluations).flatMap (·.2.failures) =
      evaluations.flatMap (·.failures) := by
    conv_rhs => rw [← List.map_snd_zip (Nat.le_of_eq same), List.flatMap_map]
  rw [TableOutcome.ofEvaluations, failures]
  exact account

theorem scanPartitioned_converses (talks : services.Talks heard ready) (selector : Selector)
    (rules : ScanRules) (table : Table) (prior : Option Int) (now : Int) :
    Converses heard ready (Scan.scanPartitioned services rules table prior now)
      (Clears selector rules [.partitions table] (·.failures)) := by
  unfold Scan.scanPartitioned
  refine (listPartitions_converses talks selector rules table).attempt_bind ?_ ?_
  · intro talk answer told
    cases answer with
    | ok partitions =>
      obtain ⟨placed, opened⟩ := told
      refine (scanPartitions_converses talks selector rules table prior now placed).imp ?_
      rintro rest answer ⟨outcome, rfl, account⟩
      exact ⟨_, rfl, opened.append account⟩
    | error fault =>
      obtain ⟨listing, account⟩ := told
      simp only [listing, ↓reduceIte]
      exact .after_record _ (converses_answered account)
  · intro fault lost
    simp only [FaultKind.not_listing_of_connectionFailure lost, Bool.false_eq_true, ↓reduceIte]

theorem scanTable_converses (talks : services.Talks heard ready) (selector : Selector)
    (rules : ScanRules) (now : Int) (prior : Option Int) {table : Table}
    (placed : Placed table.location) :
    Converses heard ready (Scan.scanTable services rules now prior table)
      (Clears selector rules (table.questions rules) (·.failures)) := by
  unfold Scan.scanTable Table.questions
  refine .after_settle (rules.ignores_of_placed placed) ?_
  cases rules.passesOver table.location with
  | true => exact .after_record _ (converses_pure _ ⟨_, rfl, .nil []⟩)
  | false =>
    have noted {act : Act σ TableOutcome} {asked : List Question} (message : TableOutcome → String)
        (looked : Converses heard ready act (Clears selector rules asked (·.failures))) :
        Converses heard ready
          (do
            let outcome ← act
            Scan.note table Level.debug (message outcome)
            return outcome)
          (Clears selector rules asked (·.failures)) := by
      refine looked.bind_answer fun talk outcome account => ?_
      exact .after_record _ (converses_answered account)
    cases table.isPartitioned with
    | true => exact noted _ (scanPartitioned_converses talks selector rules table prior now)
    | false =>
      refine noted _ ((evaluate_converses talks selector rules table prior now _).bind_answer ?_)
      exact fun talk evaluation account => converses_answered account

theorem scanSelection_converses {scheduler : Scheduler σ}
    (talks : scheduler.services.Talks heard ready) (selector : Selector) {selection : Selection}
    (placed : ∀ table ∈ selection.tables, Placed table.location) (priors : Watermarks)
    (now : Int) :
    Converses heard ready (Scan.scanSelection scheduler selection priors now)
      (Answered fun talk result => ∃ failures,
        result.failures = selection.failures.map Scan.listingFailure ++ failures ∧
          Account selector scheduler.rules
            (selection.tables.flatMap (·.questions scheduler.rules)) talk failures []) := by
  have scanned : Converses heard ready
      (do
        let outcomes ← Scan.scanTables scheduler.services scheduler.rules priors now
          selection.tables
        return ScanResult.ofOutcomes (selection.failures.map Scan.listingFailure)
          (selection.tables.zip outcomes))
      (Answered fun talk result => ∃ failures,
        result.failures = selection.failures.map Scan.listingFailure ++ failures ∧
          Account selector scheduler.rules
            (selection.tables.flatMap (·.questions scheduler.rules)) talk failures []) := by
    unfold Scan.scanTables
    refine (clears_mapM fun table member => scanTable_converses talks selector scheduler.rules now
      _ (placed table member)).bind_answer ?_
    rintro talk outcomes ⟨same, account⟩
    refine converses_answered ⟨outcomes.flatMap (·.failures), ?_, account⟩
    rw [ScanResult.ofOutcomes_eq_addAll, ScanResult.addAll_failures]
    conv_rhs => rw [← List.map_snd_zip (Nat.le_of_eq same), List.flatMap_map]
  unfold Scan.scanSelection
  split
  · exact .after_note _ _ _ scanned
  · exact scanned

/-- **A scan accounts for all it says**: its failures are those of its talk, and every question that
comes up is asked once. -/
theorem run_converses {scheduler : Scheduler σ} (talks : scheduler.services.Talks heard ready)
    (selector : Selector) (priors : Watermarks) (now : Int) :
    Converses heard ready (Scan.run scheduler selector priors now)
      (Clears selector scheduler.rules [.databases] (·.failures)) := by
  unfold Scan.run
  refine talks.clock.bind_answer ?_
  rintro _ started rfl
  refine .after_note _ _ _ ?_
  refine (choose_converses talks selector scheduler.rules).bind_answer ?_
  intro talk choice told
  cases choice with
  | error failure => exact converses_answered told
  | ok selection =>
    refine (scanSelection_converses talks selector told.placed priors now).bind_answer ?_
    rintro more result ⟨failures, together, account⟩
    refine talks.clock.bind_answer ?_
    rintro _ ended rfl
    refine .after_note _ _ _ (converses_pure _ ⟨_, rfl, ?_⟩)
    simp only [together, List.append_nil, List.nil_append]
    exact told.account.append account

end Tables
end CatalogDelta
