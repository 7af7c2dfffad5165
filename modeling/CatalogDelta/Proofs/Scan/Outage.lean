import CatalogDelta.Proofs.Scan.Sight

/-!
# Outages

During an outage some answers of a catalog are faults, and the others are as they would be without
it. As long as the connection is not lost, a scan that would return without the outage returns
during the outage as well. It sees fewer tables, and of each table fewer sightings.
-/

namespace CatalogDelta

/-- An answer is as usual, or a fault of a permitted kind. -/
def Lapses {α : Type} (permitted : Fault → Prop) (answer usual : Except Fault α) : Prop :=
  answer = usual ∨ ∃ fault, answer = .error fault ∧ permitted fault

/-- A fault of a listing that keeps the connection. -/
def Fault.KeepsConnection (fault : Fault) : Prop := fault.kind.isA .connectionFailure = false

/-- A fault that says that there is no update time. -/
def Fault.NotFound (fault : Fault) : Prop := fault.kind.isA .updateTimeNotFound = true

namespace View

/-- The first view during an outage of the second: listings fail otherwise than by a lost
connection, and update times are not found. -/
structure Outage (faulted usual : View) : Prop where
  databases : Lapses Fault.KeepsConnection faulted.databases usual.databases
  tables : ∀ database,
    Lapses Fault.KeepsConnection (faulted.tables database) (usual.tables database)
  partitions : ∀ table,
    Lapses Fault.KeepsConnection (faulted.partitions table) (usual.partitions table)
  updateTime : ∀ entity, Lapses Fault.NotFound (faulted.updateTime entity) (usual.updateTime entity)

variable {faulted usual : View} {rules : ScanRules} {table : Table}

theorem lostConnection_error {α : Type} {fault : Fault} (kept : fault.KeepsConnection) :
    lostConnection (.error fault : Except Fault α) = none := by
  unfold Fault.KeepsConnection at kept
  simp only [lostConnection, kept, Bool.false_eq_true, ↓reduceIte]

theorem lostConnection_eq_none {α : Type} {answer settled : Except Fault α}
    (lapses : Lapses Fault.KeepsConnection answer settled)
    (calm : lostConnection settled = none) : lostConnection answer = none := by
  rcases lapses with same | ⟨fault, failed, kept⟩
  · rw [same]
    exact calm
  · rw [failed]
    exact lostConnection_error kept

namespace Outage

theorem chosenIn_sublist (outage : faulted.Outage usual) (selector : Selector)
    (database : String) :
    (faulted.chosenIn selector database).Sublist (usual.chosenIn selector database) := by
  unfold chosenIn shownTables
  rcases outage.tables database with same | ⟨fault, failed, _⟩
  · simp only [same, List.Sublist.refl]
  · rw [failed]
    exact List.nil_sublist _

/-- No more tables are chosen than usual. -/
theorem chosen_sublist (outage : faulted.Outage usual) (selector : Selector) :
    (faulted.chosen selector).Sublist (usual.chosen selector) := by
  unfold chosen shownDatabases
  rcases outage.databases with same | ⟨fault, failed, _⟩
  · rw [same]
    exact List.Sublist.flatMap_right _ fun database _ => outage.chosenIn_sublist selector database
  · rw [failed]
    exact List.nil_sublist _

theorem choiceFault?_eq_none (outage : faulted.Outage usual) {selector : Selector}
    (calm : usual.choiceFault? selector = none) : faulted.choiceFault? selector = none := by
  unfold choiceFault? at calm ⊢
  rcases outage.databases with same | ⟨fault, failed, kept⟩
  · rw [same]
    cases databases : usual.databases with
    | error cause =>
      rw [databases] at calm
      exact calm
    | ok databases =>
      simp only [databases, List.findSome?_eq_none_iff] at calm ⊢
      intro database member
      exact lostConnection_eq_none (outage.tables database) (calm database member)
  · rw [failed]
    exact lostConnection_error kept

theorem timeFault?_eq_none (outage : faulted.Outage usual) {entity : Entity}
    (calm : usual.timeFault? entity = none) : faulted.timeFault? entity = none := by
  unfold timeFault? at calm ⊢
  rcases outage.updateTime entity with same | ⟨fault, failed, missing⟩
  · rw [same]
    exact calm
  · rw [failed]
    exact if_pos missing

theorem partitionFault?_eq_none (outage : faulted.Outage usual) {partition : Partition}
    (calm : usual.partitionFault? rules partition = none) :
    faulted.partitionFault? rules partition = none := by
  unfold partitionFault? at calm ⊢
  obtain ⟨found, known⟩ := Option.or_eq_none_iff.mp calm
  rw [found, Option.none_or]
  split
  · rfl
  · rename_i kept
    rw [if_neg kept] at known
    exact outage.timeFault?_eq_none known

theorem listing_eq (same : faulted.partitions table = usual.partitions table) :
    faulted.listing table = usual.listing table := by
  rw [listing, listing, same]

theorem listing_of_failed {fault : Fault} (failed : faulted.partitions table = .error fault)
    (kept : fault.KeepsConnection) :
    faulted.listing table = .error (Scan.listingFault table fault) := by
  unfold Fault.KeepsConnection at kept
  simp only [listing, failed, kept, Bool.false_eq_true, ↓reduceIte]

theorem openTableFault?_eq_none (outage : faulted.Outage usual)
    (calm : usual.openTableFault? rules table = none) :
    faulted.openTableFault? rules table = none := by
  unfold openTableFault? at calm ⊢
  by_cases partitioned : table.isPartitioned = true
  · rw [if_pos partitioned] at calm ⊢
    rcases outage.partitions table with same | ⟨fault, failed, kept⟩
    · rw [listing_eq same]
      cases listed : usual.listing table with
      | error fault =>
        rw [listed] at calm
        exact calm
      | ok partitions =>
        simp only [listed, List.findSome?_eq_none_iff] at calm ⊢
        intro partition member
        exact outage.partitionFault?_eq_none (calm partition member)
    · rw [listing_of_failed failed kept]
      rfl
  · rw [if_neg partitioned] at calm ⊢
    exact outage.timeFault?_eq_none calm

theorem tableFault?_eq_none (outage : faulted.Outage usual)
    (calm : usual.tableFault? rules table = none) : faulted.tableFault? rules table = none := by
  unfold tableFault? at calm ⊢
  obtain ⟨found, opened⟩ := Option.or_eq_none_iff.mp calm
  rw [found, Option.none_or]
  split
  · rfl
  · rename_i kept
    rw [if_neg kept] at opened
    exact outage.openTableFault?_eq_none opened

/-- **Outages end no scan** that would return without them. -/
theorem fault?_eq_none (outage : faulted.Outage usual) {selector : Selector}
    (calm : usual.fault? rules selector = none) : faulted.fault? rules selector = none := by
  unfold fault? at calm ⊢
  obtain ⟨chosen, scanned⟩ := Option.or_eq_none_iff.mp calm
  rw [outage.choiceFault?_eq_none chosen, Option.none_or]
  rw [List.findSome?_eq_none_iff] at scanned ⊢
  intro table member
  exact outage.tableFault?_eq_none (scanned table ((outage.chosen_sublist selector).subset member))

end Outage

/-- The update time of an entity of a table is found: the entities of the table can be listed, and
the time is known. -/
def finds (view : View) (table : Table) (entity : Entity) : Bool :=
  (!table.isPartitioned || (view.partitions table).isOk) && (view.updateTime entity).isOk

theorem Outage.sighting?_eq (outage : faulted.Outage usual) (entity : Entity) :
    faulted.sighting? entity =
      (usual.sighting? entity).filter fun _ => (faulted.updateTime entity).isOk := by
  unfold sighting?
  rcases outage.updateTime entity with same | ⟨fault, failed, _⟩
  · rw [same]
    cases usual.updateTime entity <;> rfl
  · rw [failed]
    cases usual.updateTime entity <;> rfl

theorem Outage.entitiesOf_eq (outage : faulted.Outage usual)
    (readable : (!table.isPartitioned || (faulted.partitions table).isOk) = true) :
    faulted.entitiesOf table = usual.entitiesOf table := by
  unfold entitiesOf
  rcases outage.partitions table with same | ⟨fault, failed, _⟩
  · rw [listing_eq same]
  · rw [failed] at readable
    have whole : table.isPartitioned = false := by simpa [Except.isOk, Except.toBool] using readable
    rw [whole]
    rfl

theorem entitiesOf_eq_nil {view : View}
    (unreadable : ¬ (!table.isPartitioned || (view.partitions table).isOk) = true) :
    view.entitiesOf table = [] := by
  obtain ⟨partitioned, failed⟩ : table.isPartitioned = true ∧
      (view.partitions table).isOk = false := by
    simpa only [Bool.or_eq_true, not_or, Bool.not_eq_true', Bool.not_eq_false,
      Bool.not_eq_true] using unreadable
  unfold entitiesOf listing
  cases answer : view.partitions table with
  | ok partitions =>
    rw [answer] at failed
    exact nomatch (failed : true = false)
  | error fault =>
    rw [if_pos partitioned]
    rfl

/-- During an outage a scan sees those sightings that are still found. -/
theorem Outage.sightings_eq (outage : faulted.Outage usual) (rules : ScanRules) (table : Table) :
    (faulted.surveyTable rules table).sightings =
      (usual.surveyTable rules table).sightings.filter fun sighting =>
        faulted.finds table sighting.entity := by
  simp only [surveyTable, lookedAt]
  by_cases readable : (!table.isPartitioned || (faulted.partitions table).isOk) = true
  · rw [outage.entitiesOf_eq readable, List.filter_filterMap]
    congr
    funext entity
    rw [outage.sighting?_eq]
    unfold sighting?
    cases usual.updateTime entity with
    | error fault => rfl
    | ok updateTime => simp only [finds, readable, Bool.true_and, Option.filter_some]
  · have empty := entitiesOf_eq_nil readable
    rw [empty, List.filter_nil, ite_self, List.filterMap_nil, eq_comm, List.filter_eq_nil_iff]
    intro sighting _ found
    exact readable (Bool.and_eq_true_iff.mp found).1

end View
end CatalogDelta
