import CatalogDelta.Proofs.Retry
import CatalogDelta.Proofs.Scan.Backed
import CatalogDelta.Proofs.UpdateTime.Steps
import CatalogDelta.Settings.Load
import CatalogDelta.Site.Services

/-!
# What a site keeps

Whatever is done with the pool and the drives of a site, conditions that have nothing to do with
them are kept. So the services that a site gives to a scan keep every condition on its files.
-/

namespace CatalogDelta

open Act

section Clients

variable {σ κ : Type} {ready : σ → Prop}

variable {repeater : Repeater} {rule : Retry.Rule σ}

theorem Retry.call_keeps {α : Type} (lawful : repeater.Lawful)
    (pauses : ∀ seconds, Keeps ready (rule.pause seconds)) {made : Act σ α}
    (first : Keeps ready made) (name : String) : Keeps ready (call repeater rule name made) :=
  lawful.repeated_keeps (fun _ _ _ => keeps_note _ _ _) pauses first

theorem Retry.client_keep (lawful : repeater.Lawful)
    (pauses : ∀ seconds, Keeps ready (rule.pause seconds)) {inner : Client σ}
    (keep : inner.Keep ready) : (client repeater rule inner).Keep ready where
  databases := call_keeps lawful pauses keep.databases _
  tables database := call_keeps lawful pauses (keep.tables database) _
  partitions table := call_keeps lawful pauses (keep.partitions table) _

/-- The steps of a host, its factory and its clients keep a condition. -/
structure Pool.Host.Keep (host : Host σ κ) (ready : σ → Prop) : Prop where
  setPool : ∀ pool outside, ready outside → ready (host.setPool pool outside)
  make : Keeps ready host.make
  client : ∀ key, (host.client key).Keep ready
  close : ∀ key, Keeps ready (host.client key).close

namespace Pool.Host

variable [DecidableEq κ] {host : Host σ κ}

omit [DecidableEq κ] in
theorem Keep.put (keep : host.Keep ready) (pool : Pool κ) : Keeps ready (host.put pool) :=
  keeps_change (keep.setPool pool)

theorem Keep.checkOut (keep : host.Keep ready) : Keeps ready host.checkOut := by
  refine (keeps_view _).bind fun pool => ?_
  split
  · exact (keep.put _).bind fun _ => keeps_pure _
  · refine keep.make.bind fun client => (keeps_note _ _ _).bind fun _ => ?_
    exact (keeps_view _).bind fun pool => (keep.put _).bind fun _ => keeps_pure client

theorem Keep.acquire (keep : host.Keep ready) : Keeps ready host.acquire := by
  refine (keeps_view _).bind fun pool => ?_
  by_cases closed : pool.closed = true
  · simp only [closed, ↓reduceIte]
    exact yields_throw_bind _ _
  · simp only [closed, Bool.false_eq_true, ↓reduceIte]
    cases pool.takeSlot? with
    | none => exact keeps_throw _
    | some taken =>
      refine (keep.put taken).bind fun _ => keep.checkOut.attempt_bind fun outcome => ?_
      cases outcome with
      | ok client => exact keeps_pure client
      | error cause =>
        exact (keeps_view _).bind fun pool => (keep.put _).bind fun _ => keeps_throw _

omit [DecidableEq κ] in
theorem Keep.closeClient (keep : host.Keep ready) (client : κ) :
    Keeps ready (host.closeClient client) := by
  refine (keep.close client).attempt_bind fun outcome => ?_
  cases outcome with
  | ok _ => exact keeps_pure _
  | error fault => exact keeps_note _ _ _

theorem Keep.release (keep : host.Keep ready) (client : κ) :
    Keeps ready (host.release client) := by
  refine (keeps_view _).bind fun pool => ?_
  rcases pool.giveBack client with ⟨orphaned, left⟩
  refine (keep.put _).bind fun _ => ?_
  cases orphaned with
  | true => exact keep.closeClient client
  | false => exact keeps_pure _

/-- A lease keeps what the work under it keeps. -/
theorem Keep.lease (keep : host.Keep ready) {α : Type} {work : Client σ → Act σ α}
    (works : ∀ client : Client σ, client.Keep ready → Keeps ready (work client)) :
    Keeps ready (host.lease work) := by
  refine keep.acquire.bind fun client => ?_
  refine (works _ (keep.client client)).attempt_bind fun outcome => ?_
  exact (keep.release client).bind fun _ => keeps_settle outcome

omit [DecidableEq κ] in
theorem Keep.shutDown (keep : host.Keep ready) : Keeps ready host.close := by
  refine (keeps_view _).bind fun pool => (keep.put _).bind fun _ => ?_
  exact (Keeps.forM keep.closeClient _).bind fun _ => keeps_note _ _ _

omit [DecidableEq κ] in
/-- Closing the pool adds nothing to what a piece of work yields. -/
theorem Keep.closing (keep : host.Keep ready) {α : Type} {work : Act σ α} {good : α → Prop}
    (yields : Yields ready work good) : Yields ready (host.closing work) good := by
  refine yields.attempt_bind (fun value holds => ?_) fun fault => ?_
  · refine keep.shutDown.bind fun _ => yields_settle fun answer same => ?_
    obtain rfl := Except.ok.inj same
    exact holds
  · exact keep.shutDown.bind fun _ => yields_throw fault good

end Pool.Host

end Clients

section Sources

variable {σ : Type} {ready : σ → Prop}

/-- The steps of a storage keep a condition. -/
structure Storage.Keep (storage : Storage σ) (ready : σ → Prop) : Prop where
  connect : ∀ protocol options, Keeps ready (storage.connect protocol options)
  remember : ∀ source protocol outside, ready outside →
    ready (storage.remember source protocol outside)
  isThere : ∀ protocol path, Keeps ready (storage.isThere protocol path)
  info : ∀ protocol path, Keeps ready (storage.info protocol path)
  children : ∀ protocol path, Keeps ready (storage.children protocol path)

namespace Storage

variable {storage : Storage σ}

theorem Keep.lookUp (keep : storage.Keep ready) (source : Nat) (options : List (String × Data))
    (entity : Entity) : Keeps ready (storage.lookUp source options entity) :=
  Has.lookUp ⟨keep.connect, fun source protocol => keeps_change (keep.remember source protocol),
    keep.isThere, keep.info, keep.children⟩ (closed_keeps ready) source options entity

end Storage

namespace UpdateTimeSource

variable {storage : Storage σ}

mutual

theorem lookUp_keeps (keep : storage.Keep ready) (entity : Entity) (source : UpdateTimeSource) :
    Keeps ready (source.lookUp storage entity) := by
  cases source with
  | creation options =>
    rw [lookUp]
    exact keeps_settle _
  | storage number options =>
    rw [lookUp]
    exact keep.lookUp number options entity
  | fallback sources =>
    rw [lookUp]
    exact firstAnswer_keeps keep entity sources []

theorem firstAnswer_keeps (keep : storage.Keep ready) (entity : Entity)
    (sources : List UpdateTimeSource) (reasons : List String) :
    Keeps ready (firstAnswer storage entity sources reasons) := by
  cases sources with
  | nil =>
    rw [firstAnswer]
    exact keeps_throw _
  | cons source others =>
    rw [firstAnswer]
    refine (lookUp_keeps keep entity source).attempt_bind fun outcome => ?_
    cases outcome with
    | ok time => exact keeps_pure time
    | error fault =>
      dsimp only
      split
      · exact (keeps_note _ _ _).bind fun _ => firstAnswer_keeps keep entity others _
      · exact keeps_throw fault

end

end UpdateTimeSource

end Sources

namespace Site

variable {good : Files → Prop} {ready : Site → Prop}

/-- A condition on a site that has nothing to do with its pool, its factory and its connections. -/
structure Aside (ready : Site → Prop) : Prop where
  setPool : ∀ pool site, ready site → ready { site with pool }
  setFactory : ∀ factory site, ready site → ready { site with factory }
  setConnections : ∀ connections site, ready site → ready { site with connections }
  setConnected : ∀ connected site, ready site → ready { site with connected }

/-- A condition on the files of a site. -/
abbrev FilesAre (good : Files → Prop) (site : Site) : Prop := good site.files

theorem aside_filesAre : Aside (FilesAre good) where
  setPool _ _ met := met
  setFactory _ _ met := met
  setConnections _ _ met := met
  setConnected _ _ met := met

/-- A change to a site that leaves its files alone. -/
theorem keeps_files {step : Site → Site} (same : ∀ site, (step site).files = site.files) :
    Keeps (FilesAre good) (change step) := by
  refine keeps_change fun site met => ?_
  unfold FilesAre
  rw [same]
  exact met

theorem call_keeps {α : Type} {answer : Act Site α} (answers : Keeps (FilesAre good) answer)
    (made : CatalogCall) : Keeps (FilesAre good) (troubleBook.call made answer) := by
  refine (keeps_files (by intro _; rfl)).bind fun _ => (keeps_view _).bind fun plan => ?_
  refine (keeps_files (by intro _; rfl)).bind fun _ => ?_
  split
  · exact keeps_throw _
  · exact answers

theorem client_keep (kind : String) : (client kind).Keep (FilesAre good) where
  databases := call_keeps ((keeps_view _).bind fun _ => keeps_pure _) _
  tables _ := call_keeps ((keeps_view _).bind fun _ => keeps_settle _) _
  partitions _ := call_keeps ((keeps_view _).bind fun _ => keeps_settle _) _

theorem pause_keeps (seconds : Float) : Keeps (FilesAre good) (pause seconds) :=
  keeps_files (by intro _; rfl)

theorem closeClient_keeps_aside (aside : Aside ready) (client : String) :
    Keeps ready (closeClient client) := by
  refine (keeps_change fun site => aside.setFactory _ site).bind fun _ =>
    (keeps_view _).bind fun factory => ?_
  split
  · exact keeps_throw _
  · exact keeps_pure _

theorem makeClient_keeps (aside : Aside ready) : Keeps ready makeClient :=
  (keeps_view _).bind fun _ =>
    (keeps_change fun site => aside.setFactory _ site).bind fun _ => keeps_pure _

theorem hostWith_keep (aside : Aside ready) {setup : PoolSetup} (keep : setup.client.Keep ready)
    {make : Act Site String} (makes : Keeps ready make) : (hostWith setup make).Keep ready where
  setPool := aside.setPool
  make := makes
  client _ := ⟨keep.databases, keep.tables, keep.partitions⟩
  close key := closeClient_keeps_aside aside key

theorem host_keep (aside : Aside ready) {setup : PoolSetup} (keep : setup.client.Keep ready) :
    (host setup).Keep ready := by
  refine hostWith_keep aside keep ?_
  refine (keeps_view _).bind fun factory => ?_
  rcases factory.next with ⟨making, after⟩
  refine (keeps_change fun site => aside.setFactory after site).bind fun _ => ?_
  cases making with
  | fault fault => exact keeps_throw fault
  | client => exact makeClient_keeps aside
  | closePool =>
    exact (hostWith_keep aside keep (makeClient_keeps aside)).shutDown.bind fun _ =>
      makeClient_keeps aside

theorem askDrive_keeps {α : Type} (protocol : String) (question : DriveTable → Except Fault α) :
    Keeps ready (askDrive protocol question) :=
  (keeps_view _).bind fun _ => (keeps_settle _).bind fun _ => keeps_settle _

theorem storage_keep (aside : Aside ready) : storage.Keep ready where
  connect protocol options := by
    refine (keeps_change fun site => aside.setConnections _ site).bind fun _ =>
      (keeps_view _).bind fun drives => ?_
    exact (keeps_settle _).bind fun _ => keeps_pure _
  remember _ _ site := aside.setConnected _ site
  isThere protocol _ := askDrive_keeps protocol _
  info protocol _ := askDrive_keeps protocol _
  children protocol _ := askDrive_keeps protocol _

/-- **The services of a site keep what its clients keep**, unless it has to do with the pool. -/
theorem services_keep (aside : Aside ready) {setup : PoolSetup} (keep : setup.client.Keep ready)
    (source : UpdateTimeSource) : (services setup source).Keep ready where
  lease _ works := (host_keep aside keep).lease works
  updateTime entity := source.lookUp_keeps (storage_keep aside) entity
  clock := keeps_view _

/-- The clients that settings ask for keep the files. -/
theorem settings_client_keep {repeater : Repeater} (lawful : repeater.Lawful)
    (settings : Settings) (kind : String) :
    (settings.client repeater pause (client kind)).Keep (FilesAre good) := by
  unfold Settings.client
  split
  · exact client_keep kind
  · exact Retry.client_keep lawful pause_keeps (client_keep kind)

end Site
end CatalogDelta
