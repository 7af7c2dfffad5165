import CatalogDelta.Proofs.Catalog.Loaded
import CatalogDelta.Proofs.Pool.Close
import CatalogDelta.Proofs.Scan.Listed
import CatalogDelta.Proofs.Site.Kept
import CatalogDelta.Proofs.Site.Services

/-!
# Scans of snapshots

A catalog that is read from a snapshot can be listed wherever it is asked for, and its partitions
fit their tables. So a scan of it has no failures of listings to tell of, whatever the pool, the
factory and the drives of the site do. Main statement: `Snapshot.load_mirrors`.
-/

namespace CatalogDelta

open Act

namespace Snapshot

/-- A catalog that mirrors a snapshot has all it shows to list. -/
theorem Mirrors.fits {snapshot : Data} {catalog : Catalog} (mirrors : Mirrors snapshot catalog)
    (updateTime : Entity → Except Fault Int) : (catalog.view [] updateTime).Fits := by
  have shown : (catalog.view [] updateTime).shownDatabases =
      OrderedMap.keys (sourceDatabases snapshot) := mirrors.databases
  refine ⟨⟨_, rfl⟩, fun database member => ?_, fun table member => ?_⟩
  · rw [shown] at member
    obtain ⟨source, inside, rfl⟩ := List.mem_map.mp member
    obtain ⟨tables, listed, -⟩ := mirrors.tables source inside
    exact ⟨tables, listed⟩
  · obtain ⟨database, inside, member⟩ := List.mem_flatMap.mp member
    rw [shown] at inside
    obtain ⟨source, named, rfl⟩ := List.mem_map.mp inside
    obtain ⟨tables, listed, all⟩ := mirrors.tables source named
    have shownTables : (catalog.view [] updateTime).shownTables source.1 = tables :=
      congrArg (fun answer : Except Fault (List Table) => answer.toOption.getD []) listed
    rw [shownTables] at member
    obtain ⟨place, here, rfl⟩ := List.mem_iff_getElem.mp member
    have length_eq := all.length_eq
    obtain ⟨-, partitions, found, described⟩ := all.get (by omega) here
    refine ⟨partitions, found, fun partition member => ?_⟩
    obtain ⟨nth, there, rfl⟩ := List.mem_iff_getElem.mp member
    have sameLength := described.length_eq
    exact (described.get (by omega) there).count

end Snapshot

namespace Pool.Host

variable {σ κ : Type} [DecidableEq κ] {host : Host σ κ} {ready : σ → Prop} {view : View}

/-- A client that is not got is a connection that is lost. -/
theorem kind_of_acquire {stage : Stage σ} {fault : Fault}
    (failed : (runOn host.acquire stage).1 = .error fault) : fault.kind = .connectionFailure := by
  unfold acquire at failed
  rw [runOn_bind, runOn_view] at failed
  by_cases closed : (host.pool stage.outside).closed
  · simp only [closed, ↓reduceIte, runOn_bind, runOn_throw] at failed
    cases failed
    rfl
  · simp only [closed, Bool.false_eq_true, ↓reduceIte] at failed
    cases slot : (host.pool stage.outside).takeSlot? with
    | none =>
      rw [slot] at failed
      cases failed
      rfl
    | some taken =>
      simp only [slot, put, runOn_bind, runOn_change, runOn_attempt] at failed
      split at failed
      · exact nomatch failed
      · cases failed
        rfl

theorem release_returns (keep : host.Keep ready) (client : κ) :
    Returns ready (host.release client) := by
  intro stage met
  refine ⟨(), ?_, (keep.release client stage met).1⟩
  rcases given : (host.pool stage.outside).giveBack client with ⟨orphaned, pool⟩
  simp only [release, runOn_bind, runOn_view, given, put, runOn_change]
  cases orphaned with
  | true => exact (closeClient_run host client _).1
  | false => rfl

/-- A lease ends as its work does, unless no client is got. -/
theorem lease_leads (keep : host.Keep ready) (shows : ∀ key, (host.client key).Shows ready view)
    {α : Type} {work : Client σ → Act σ α} {answer : Except Fault α}
    (works : ∀ (held : σ → Prop) (client : Client σ), client.Shows held view →
      Gives held (work client) answer) :
    Leads ready (host.lease work) fun outcome outside => ready outside ∧ OrLost answer outcome := by
  intro stage met
  have kept := (keep.acquire stage met).1
  unfold lease
  cases acquired : (runOn host.acquire stage).1 with
  | error fault =>
    rw [runOn_bind_of_error acquired]
    refine ⟨kept, .inr ⟨fault, rfl, ?_⟩⟩
    rw [kind_of_acquire acquired]
    rfl
  | ok client =>
    obtain ⟨worked, still⟩ := works _ (host.client client) (shows client) _ kept
    obtain ⟨_, released, back⟩ := release_returns keep client _ still
    rw [runOn_bind_of_ok acquired, runOn_bind, runOn_attempt]
    simp only [runOn_bind_of_ok released, runOn_settle, worked]
    exact ⟨back, .inl rfl⟩

end Pool.Host

namespace Site

/-- The site has the catalog, and nothing troubles the calls to it. -/
structure Holds (catalog : Catalog) (site : Site) : Prop where
  catalog_eq : site.catalog = catalog
  untroubled : site.troubles = []

variable {catalog : Catalog} {updateTime : Entity → Except Fault Int}

theorem aside_holds : Aside (Holds catalog) where
  setPool _ _ holds := ⟨holds.catalog_eq, holds.untroubled⟩
  setFactory _ _ holds := ⟨holds.catalog_eq, holds.untroubled⟩
  setConnections _ _ holds := ⟨holds.catalog_eq, holds.untroubled⟩
  setConnected _ _ holds := ⟨holds.catalog_eq, holds.untroubled⟩

theorem call_answers {α : Type} {act : Act Site α} {answer : Except Fault α} (made : CatalogCall)
    (given : Gives (Holds catalog) act answer) :
    Gives (Holds catalog) (troubleBook.call made act) answer := by
  intro stage holds
  have calm : TroublePlan.strike [] made = (none, []) := rfl
  simp only [TroubleBook.call, runOn_bind, runOn_change, runOn_view, troubleBook, holds.untroubled,
    calm]
  exact given _ ⟨holds.catalog_eq, rfl⟩

theorem client_answers (kind : String) :
    (client kind).Shows (Holds catalog) (catalog.view [] updateTime) where
  databases := by
    refine call_answers .databases fun stage holds => ⟨?_, holds⟩
    rw [← holds.catalog_eq]
    rfl
  tables database := by
    refine call_answers (.tables database) fun stage holds => ?_
    simp only [Catalog.client, runOn_bind, runOn_view, runOn_settle, holds.catalog_eq]
    exact ⟨rfl, holds⟩
  partitions table := by
    refine call_answers (.partitions table.dataset) fun stage holds => ?_
    simp only [Catalog.client, runOn_bind, runOn_view, runOn_settle, holds.catalog_eq]
    exact ⟨rfl, holds⟩

/-- **A site that holds a catalog lends clients that answer by it**, whatever its pool, its factory
and its drives do, and whatever update times are asked for. -/
theorem services_lend {setup : PoolSetup} {view : View}
    (shows : setup.client.Shows (Holds catalog) view) (source : UpdateTimeSource) :
    (services setup source).Lends (Holds catalog) view := by
  have keep : setup.client.Keep (Holds catalog) :=
    ⟨shows.databases.keeps, fun database => (shows.tables database).keeps,
      fun table => (shows.partitions table).keeps⟩
  have keeps := services_keep aside_holds keep source
  refine ⟨fun work answer works => ?_, keeps.updateTime, keeps.clock⟩
  refine Pool.Host.lease_leads (host_keep aside_holds keep) (fun key => ?_) works
  exact ⟨shows.databases, shows.tables, shows.partitions⟩

end Site

namespace Snapshot

/-- **A loaded snapshot is mirrored by its catalog, and can be listed by every scan.** If it names
nothing twice, the catalog lists its databases, tables and partitions in its order, and the handles
say what it says. Wherever clients are lent that answer by this catalog, a scan with any
selector, update times and watermarks, by one worker or by several, tells of no failed listing. -/
theorem load_mirrors {σ : Type} {snapshot : Data} {stage : Stage σ} {catalog : Catalog}
    (once : NamesOnce snapshot) (loaded : (runOn (load snapshot) stage).1 = .ok catalog) :
    Mirrors snapshot catalog ∧
      ∀ {τ : Type} (scheduler : Scheduler τ) (ready : τ → Prop)
        (updateTime : Entity → Except Fault Int),
        scheduler.services.Lends ready (catalog.view [] updateTime) →
        (∀ prior now selector, Yields ready (Scan.request scheduler prior now selector)
          fun result => AllListed result.failures) ∧
        ∀ (selector : Selector) (priors : Watermarks) (now : Int) (moves : List Move)
          (start : Stage τ) (floor : Floor τ) (result : ScanResult), ready start.outside →
          Crew.play? ⟨scheduler, selector, priors, now⟩ moves { stage := start } = some floor →
          floor.task = .settled (.ok result) → AllListed result.failures := by
  rw [load_answers] at loaded
  have mirrors := mirrors_of_catalogOf once loaded
  refine ⟨mirrors, fun {τ} scheduler ready updateTime lends => ?_⟩
  have fits := mirrors.fits updateTime
  refine ⟨Scan.request_lists lends fits, ?_⟩
  intro selector priors now moves start floor result met played ended
  have begins : ScanTask.AllListed (catalog.view [] updateTime) .waiting := trivial
  obtain ⟨all, -⟩ := Crew.play?_lists lends fits begins met played
  rw [ended] at all
  exact all result rfl

/-- A database with a table by days, one of which is named and one of which is listed by its value,
and a table that says nothing; and a database that says nothing. -/
def ledger : Data :=
  .map [("databases", .map [
    ("sales", .map [("tables", .map [
      ("orders", .map [("partition_keys", .list [.text "day"]), ("create_time", .int 5),
        ("partitions", .list [.map [("name", .text "day=mon")],
          .map [("values", .list [.text "tue"])]])]),
      ("customers", .null)])]),
    ("archive", .null)])]

def ledgerCatalog : Catalog where
  databases := [
    ("sales", [
      ("orders", { dataset := ⟨"sales", "orders"⟩, partitionKeys := [.text "day"],
                   createTime := .int 5 }),
      ("customers", { dataset := ⟨"sales", "customers"⟩ })]),
    ("archive", [])]
  partitions := [
    (⟨"sales", "orders"⟩, [{ table := ⟨"sales", "orders"⟩, values := ["mon"] },
      { table := ⟨"sales", "orders"⟩, values := ["tue"] }]),
    (⟨"sales", "customers"⟩, [])]

theorem ledger_namesOnce : NamesOnce ledger where
  databases := by decide
  tables := by decide

/-- A scheduler for a site that lends clients without end. -/
def ledgerScheduler : Scheduler Site where
  services := Site.services { client := Site.client "ledger", patience := .null } (.creation [])
  selector := .everything
  rules := .make {} true []

/-- The ledger is mirrored by its catalog, and a scan of a site that holds it lists everything. -/
theorem ledger_mirrored :
    Mirrors ledger ledgerCatalog ∧ Site.Holds ledgerCatalog { catalog := ledgerCatalog } ∧
      Yields (Site.Holds ledgerCatalog) (Scan.request ledgerScheduler [] (.int 0))
        fun result => AllListed result.failures := by
  have loaded : (runOn (load ledger) { outside := () }).1 = .ok ledgerCatalog := rfl
  obtain ⟨mirrors, lists⟩ := load_mirrors ledger_namesOnce loaded
  have lends : ledgerScheduler.services.Lends (Site.Holds ledgerCatalog)
      (ledgerCatalog.view [] fun _ => .ok 0) :=
    Site.services_lend (Site.client_answers "ledger") (.creation [])
  exact ⟨mirrors, ⟨rfl, rfl⟩, (lists ledgerScheduler _ _ lends).1 [] (.int 0) none⟩

end Snapshot
end CatalogDelta
