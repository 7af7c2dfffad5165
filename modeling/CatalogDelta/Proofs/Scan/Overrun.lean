import CatalogDelta.Proofs.Scan.Escape
import CatalogDelta.Proofs.Site.Kept
import CatalogDelta.Proofs.UpdateTime.Trouble

/-!
# Scans of storage in trouble

A scan records the entities whose update times are not found, and goes on. Let leases fail only for
want of a listing or of a connection. Then a scan of storage that abides by its rules ends with a
fault only for want of a connection, or because something that storage shows overruns.
-/

namespace CatalogDelta

open Act

/-- A fault for want of a listing or of a connection. -/
def IsListingFault (fault : Fault) : Prop :=
  fault.kind.isA .listing = true ∨ fault.kind.isA .connectionFailure = true

/-- Leases fail only for want of a listing or of a connection, and what is listed is stored where
things can be stored. -/
structure ScanServices.ListsPlaced {σ : Type} (services : ScanServices σ) (ready : σ → Prop)
    (selector : Selector) : Prop where
  choice : Within ready (services.lease selector.select)
    (fun selection => ∀ table ∈ selection.tables, Placed table.location) IsListingFault
  partitions : ∀ table, Within ready (services.lease (Scan.fetchPartitions table))
    (fun partitions => ∀ partition ∈ partitions, Placed partition.location) IsListingFault
  clock : Returns ready services.clock

/-- The update times of what is stored somewhere fail for want of a time or with an allowed fault. -/
def ScanServices.Times {σ : Type} (services : ScanServices σ) (ready : σ → Prop)
    (allowed : Fault → Prop) : Prop :=
  ∀ entity : Entity, Placed entity.location →
    Within ready (services.updateTime entity) (fun _ => True) fun fault =>
      fault.kind = .updateTimeNotFound ∨ allowed fault

namespace Scan

variable {σ : Type} {ready : σ → Prop} {services : ScanServices σ} {selector : Selector}
  {allowed : Fault → Prop} {rules : ScanRules} {table : Table} {prior : Option Int} {now : Int}

theorem evaluate_within (times : services.Times ready allowed) (entity : Entity)
    (placed : Placed entity.location) :
    Within ready (evaluate services rules table prior now entity) (fun _ => True) allowed := by
  refine (times entity placed).attempt_bind fun outcome fair => ?_
  cases outcome with
  | ok updateTime => exact within_pure trivial
  | error fault =>
    dsimp only
    split
    · exact (within_record _).bind fun _ _ => within_pure trivial
    · rename_i other
      refine within_throw (fair.resolve_left fun missing => other ?_)
      rw [missing]
      rfl

/-- Whether a location is ignored can be said of everything that is stored somewhere. -/
theorem ignores_within {location : Data} (placed : Placed location) :
    Within ready (settle (rules.ignores location)) (fun _ => True) allowed := by
  rw [rules.ignores_of_placed placed]
  exact within_pure trivial

theorem evaluatePartition_within (times : services.Times ready allowed) {partition : Partition}
    (placed : Placed partition.location) :
    Within ready (evaluatePartition services rules table prior now partition) (fun _ => True)
      allowed := by
  refine (ignores_within placed).bind fun ignored _ => ?_
  cases ignored with
  | true => exact (within_record _).bind fun _ _ => within_pure trivial
  | false => exact evaluate_within times (.partition partition) placed

theorem listPartitions_within (lists : services.ListsPlaced ready selector) :
    Within ready (listPartitions services table)
      (fun partitions => ∀ partition ∈ partitions, Placed partition.location) IsListingFault := by
  refine (lists.partitions table).bind fun partitions placed => ?_
  split
  · exact within_throw (.inl rfl)
  · exact within_pure placed

theorem scanPartitions_within (times : services.Times ready allowed) {partitions : List Partition}
    (placed : ∀ partition ∈ partitions, Placed partition.location) :
    Within ready (scanPartitions services rules table prior now partitions) (fun _ => True)
      allowed := by
  have looked : Within ready
      (partitions.mapM (evaluatePartition services rules table prior now)) (fun _ => True) allowed :=
    Within.mapM fun partition member => evaluatePartition_within times (placed partition member)
  exact looked.bind fun _ _ => (within_record _).bind fun _ _ => within_pure trivial

/-- A scan ends for want of a connection or with an allowed fault. -/
def Stops (allowed : Fault → Prop) (fault : Fault) : Prop :=
  fault.kind.isA .connectionFailure = true ∨ allowed fault

theorem scanPartitioned_within (lists : services.ListsPlaced ready selector)
    (times : services.Times ready allowed) :
    Within ready (scanPartitioned services rules table prior now) (fun _ => True)
      (Stops allowed) := by
  refine (listPartitions_within lists).attempt_bind fun outcome fair => ?_
  cases outcome with
  | ok partitions =>
    exact (scanPartitions_within times fair).imp (fun _ _ => trivial) fun _ => .inr
  | error fault =>
    dsimp only
    split
    · exact (within_record _).bind fun _ _ => within_pure trivial
    · rename_i other
      exact within_throw (.inl (fair.resolve_left other))

theorem scanTable_within (lists : services.ListsPlaced ready selector)
    (times : services.Times ready allowed) (placed : Placed table.location) :
    Within ready (scanTable services rules now prior table) (fun _ => True) (Stops allowed) := by
  refine (ignores_within placed).bind fun ignored _ => ?_
  cases ignored with
  | true => exact (within_record _).bind fun _ _ => within_pure trivial
  | false =>
    have noted {act : Act σ TableOutcome} (message : TableOutcome → String)
        (scanned : Within ready act (fun _ => True) (Stops allowed)) :
        Within ready
          (do
            let outcome ← act
            note table Level.debug (message outcome)
            return outcome)
          (fun _ => True) (Stops allowed) :=
      scanned.bind fun _ _ => (within_record _).bind fun _ _ => within_pure trivial
    cases table.isPartitioned with
    | true => exact noted _ (scanPartitioned_within lists times)
    | false =>
      have whole : Within ready (evaluate services rules table prior now (.table table))
          (fun _ => True) (Stops allowed) :=
        (evaluate_within times (.table table) placed).imp (fun _ _ => trivial) fun _ => .inr
      exact noted _ (whole.bind fun _ _ => within_pure trivial)

theorem scanSelection_within {scheduler : Scheduler σ}
    (lists : scheduler.services.ListsPlaced ready selector)
    (times : scheduler.services.Times ready allowed) {selection : Selection}
    (placed : ∀ table ∈ selection.tables, Placed table.location) (priors : Watermarks) :
    Within ready (scanSelection scheduler selection priors now) (fun _ => True)
      (Stops allowed) := by
  have tables : Within ready (scanTables scheduler.services scheduler.rules priors now
      selection.tables) (fun _ => True) (Stops allowed) :=
    Within.mapM fun table member => scanTable_within lists times (placed table member)
  unfold scanSelection
  split
  · exact (within_note _ _ _).bind fun _ _ => tables.bind fun _ _ => within_pure trivial
  · exact tables.bind fun _ _ => within_pure trivial

theorem choose_within (lists : services.ListsPlaced ready selector) :
    Within ready (choose services selector)
      (fun chosen => ∀ selection, chosen = .ok selection →
        ∀ table ∈ selection.tables, Placed table.location) (Stops allowed) := by
  refine lists.choice.attempt_bind fun outcome fair => ?_
  cases outcome with
  | ok selection =>
    refine within_pure fun _ same => ?_
    exact Except.ok.inj same ▸ fair
  | error fault =>
    dsimp only
    split
    · exact (within_note _ _ _).bind fun _ _ => within_pure fun _ same => nomatch same
    · rename_i other
      exact within_throw (.inl (fair.resolve_left other))

theorem run_within {scheduler : Scheduler σ}
    (lists : scheduler.services.ListsPlaced ready selector)
    (times : scheduler.services.Times ready allowed) (priors : Watermarks) :
    Within ready (run scheduler selector priors now) (fun _ => True) (Stops allowed) := by
  refine lists.clock.within.bind fun _ _ => (within_note _ _ _).bind fun _ _ => ?_
  refine (choose_within lists).bind fun chosen placed => ?_
  cases chosen with
  | error failure => exact within_pure trivial
  | ok selection =>
    refine (scanSelection_within lists times (placed selection rfl) priors).bind fun _ _ => ?_
    exact lists.clock.within.bind fun _ _ => (within_note _ _ _).bind fun _ _ =>
      within_pure trivial

end Scan

namespace View

variable {σ : Type} {ready : σ → Prop} {view : View}

theorem Sound.placed (sound : view.Sound) : ∀ table ∈ view.listed, Placed table.location := by
  intro table member
  obtain ⟨database, -, shown⟩ := List.mem_flatMap.mp member
  have tables := sound.tables database
  unfold shownTables at shown
  cases listed : view.tables database with
  | error cause =>
    rw [listed] at shown
    exact absurd shown List.not_mem_nil
  | ok found =>
    rw [listed] at shown tables
    exact tables table shown

theorem selected_fair (sound : view.Sound) (selector : Selector) :
    Fair (fun selection => ∀ table ∈ selection.tables, Placed table.location) IsListingFault
      (view.selected selector) := by
  unfold selected
  split
  · cases stopped : view.choiceFault? selector with
    | some fault => exact .inr (choiceFault?_isA stopped)
    | none =>
      exact fun table member => sound.placed table ((view.chosen_sublist_listed selector).mem member)
  · unfold databasesFault
    split
    · rename_i lost
      exact .inr lost
    · exact .inl (Fault.isA_listingFailure _ _ _ _ _)

/-- Services that lease clients which answer by a sound view list what is placed. -/
theorem listsPlaced {services : ScanServices σ}
    (lease : ∀ {α : Type} (work : Client σ → Act σ α) (answer : Except Fault α),
      (∀ (held : σ → Prop) (client : Client σ), client.Shows held view →
        Gives held (work client) answer) → Gives ready (services.lease work) answer)
    (clock : Returns ready services.clock) (sound : view.Sound) (selector : Selector) :
    services.ListsPlaced ready selector where
  choice := by
    intro stage met
    have chosen : Gives ready (services.lease selector.select) (view.selected selector) :=
      lease _ _ fun _ _ client => select_gives client selector
    obtain ⟨given, kept⟩ := chosen stage met
    exact ⟨kept, given ▸ selected_fair sound selector⟩
  partitions table := by
    intro stage met
    have fetched := lease (Scan.fetchPartitions table) _ fun _ _ client =>
      fetchPartitions_gives client table
    obtain ⟨given, kept⟩ := fetched stage met
    rw [given]
    refine ⟨kept, ?_⟩
    have partitions := sound.partitions table
    split
    · rename_i listed found
      rw [found] at partitions
      exact partitions
    · split
      · rename_i lost
        exact .inr lost
      · exact .inl (Fault.isA_listingFailure _ _ _ _ _)
  clock := clock

/-- A client that answers by a view. -/
def client (view : View) : Client σ where
  kind := "view"
  listDatabases := settle view.databases
  listTables database := settle (view.tables database)
  listPartitions table := settle (view.partitions table)

theorem client_shows (view : View) : (client view : Client σ).Shows ready view where
  databases := gives_settle _
  tables _ := gives_settle _
  partitions _ := gives_settle _

end View

namespace Storage

variable {σ : Type} {storage : Storage σ} {ready : σ → Prop} {source : Nat}
  {options : List (String × Data)}

theorem Abides.keep (abides : storage.Abides ready) : storage.Keep ready where
  connect protocol options := (abides.connect protocol options).keeps
  remember := abides.remember
  isThere protocol path := (abides.isThere protocol path).keeps
  info protocol path := (abides.info protocol path).keeps
  children protocol path := (abides.children protocol path).keeps

/-- **Trouble with storage skips an entity, unless something overruns.** A look-up gives a time or
says that it has none, or else it ends with an overflow, and that it does exactly if what is shown of
the entity overruns. Nothing else about storage ends a scan. -/
theorem trouble_skips_unless_overruns (abides : storage.Abides ready)
    (once : OrderedMap.hasKey "protocol" options = false) :
    (∀ entity : Entity, Placed entity.location → ∀ stage : Stage σ, ready stage.outside →
      Ended (runOn (storage.lookUp source options entity) stage).1 ∧
        (Overflows (runOn (storage.lookUp source options entity) stage).1 ↔
          storage.Overruns source options entity stage)) ∧
      ∀ (scheduler : Scheduler σ) (selector : Selector) (priors : Watermarks) (now : Int),
        scheduler.services.ListsPlaced ready selector →
        scheduler.services.updateTime = storage.lookUp source options →
        ∀ (stage : Stage σ) (fault : Fault), ready stage.outside →
          (runOn (Scan.run scheduler selector priors now) stage).1 = .error fault →
          fault.kind.isA .connectionFailure = true ∨ fault.kind = .overflow ∧
            ∃ entity reached, ready reached.outside ∧
              storage.Overruns source options entity reached := by
  refine ⟨fun entity placed stage met => abides.lookUp once placed stage met, ?_⟩
  intro scheduler selector priors now lists same stage fault met failed
  have times : scheduler.services.Times ready fun fault => fault.kind = .overflow ∧
      ∃ entity reached, ready reached.outside ∧ storage.Overruns source options entity reached := by
    intro entity placed
    rw [same]
    intro stage met
    obtain ⟨ended, overflows⟩ := abides.lookUp once placed stage met
    refine ⟨(abides.keep.lookUp source options entity stage met).1, ?_⟩
    cases outcome : (runOn (storage.lookUp source options entity) stage).1 with
    | ok time => trivial
    | error fault =>
      rw [outcome] at ended overflows
      refine ended.imp_right fun overflow => ?_
      exact ⟨overflow, entity, stage, met, overflows.mp ⟨fault, rfl, overflow⟩⟩
  have fair : Fair _ _ (runOn (Scan.run scheduler selector priors now) stage).1 :=
    (Scan.run_within lists times priors stage met).2
  rw [failed] at fair
  exact fair

end Storage

namespace Site

/-- A drive on which a file says that it was changed an unheard-of number of seconds ago. -/
def hugeDrive : Drive.Rack :=
  [("file", .reachable { info := [("/huge", .ok (.map [("mtime", .int (10 ^ 400))]))] })]

/-- The site with that drive. -/
def hugeSite : Site where
  catalog := { databases := [("sales", [("orders",
    { dataset := ⟨"sales", "orders"⟩, location := .text "/huge" })])] }
  drives := hugeDrive

/-- A scheduler for that site, which asks its catalog without a pool. -/
def hugeScheduler : Scheduler Site where
  services :=
    { lease := fun work => work (hugeSite.catalog.view [] fun _ => .ok 0).client
      updateTime := storage.lookUp 1 []
      clock := Act.view Site.now }
  selector := .everything
  rules := .make {} true []

theorem hugeDrive_fair {α : Type} {good : α → Prop} {question : DriveTable → Except Fault α}
    (protocol : String)
    (fair : ∀ table, Drive.reach hugeDrive "file" = .ok table →
      Fair good Storage.IsTrouble (question table)) :
    Fair good Storage.IsTrouble (Drive.reach hugeDrive protocol >>= question) := by
  by_cases file : protocol = "file"
  · subst file
    exact fair _ rfl
  · have unknown : Drive.reach hugeDrive protocol = .error (Drive.unknown protocol) := by
      unfold Drive.reach hugeDrive
      rw [OrderedMap.get?, if_neg (Ne.symm file)]
      rfl
    rw [unknown]
    change Storage.readingKinds.any FaultKind.value.isA = true
    decide

theorem hugeDrive_abides :
    storage.Abides fun site => ∃ books : Storage.Books,
      books.Hold storage (fun site => site.drives = hugeDrive) Site.connections site := by
  refine (storage_replying hugeDrive).abides (fun protocol _ => ?_) (fun protocol path => ?_)
    (fun protocol path => ?_) fun protocol path => ?_
  all_goals
    refine hugeDrive_fair protocol fun table mounted => ?_
    obtain rfl := Except.ok.inj mounted
  · trivial
  · trivial
  · unfold DriveTable.infoOf
    rw [OrderedMap.get?_single]
    split
    · exact ⟨_, rfl⟩
    · exact ⟨_, rfl⟩
  · exact ⟨_, rfl⟩

/-- The drive abides by the rules, and yet neither the look-up nor the scan reports its file: both end
with an overflow. -/
theorem huge_time_unreported :
    (storage.Abides fun site => ∃ books : Storage.Books,
      books.Hold storage (fun site => site.drives = hugeDrive) Site.connections site) ∧
      Storage.Overflows
        (runOn (storage.lookUp 1 [] (storedAt "/huge")) { outside := hugeSite }).1 ∧
      Storage.Overflows
        (runOn (Scan.run hugeScheduler .everything [] 5000) { outside := hugeSite }).1 := by
  refine ⟨hugeDrive_abides, ?_, ?_⟩
  · decide +kernel
  · decide +kernel

/-- What the drive shows overruns, and the scan ends for this or for want of a connection. -/
theorem huge_time_overruns :
    storage.Overruns 1 [] (storedAt "/huge") { outside := hugeSite } ∧
      ∀ fault, (runOn (Scan.run hugeScheduler .everything [] 5000) { outside := hugeSite }).1 =
        .error fault → fault.kind.isA .connectionFailure = true ∨ fault.kind = .overflow := by
  have mounted : ∃ books : Storage.Books,
      books.Hold storage (fun site => site.drives = hugeDrive) Site.connections hugeSite :=
    ⟨.of storage Site.connections hugeSite, rfl, rfl, fun _ _ => rfl⟩
  have once : OrderedMap.hasKey "protocol" ([] : List (String × Data)) = false := rfl
  obtain ⟨looks, scans⟩ := Storage.trouble_skips_unless_overruns hugeDrive_abides once
  constructor
  · refine (looks (storedAt "/huge") (.text "/huge") { outside := hugeSite } mounted).2.mp ?_
    decide +kernel
  · intro fault failed
    have sound : (hugeSite.catalog.view [] fun _ => .ok 0).Sound :=
      Catalog.view_sound (by decide +kernel) (by decide +kernel) fun _ _ failed => nomatch failed
    have lists : hugeScheduler.services.ListsPlaced
        (fun site => ∃ books : Storage.Books,
          books.Hold storage (fun site => site.drives = hugeDrive) Site.connections site)
        .everything :=
      View.listsPlaced (fun _ _ works => works _ _ (View.client_shows _))
        (fun stage met => ⟨stage.outside.now, rfl, met⟩) sound .everything
    exact (scans hugeScheduler .everything [] 5000 lists rfl { outside := hugeSite } fault mounted
      failed).imp_right And.left

end Site

end CatalogDelta
