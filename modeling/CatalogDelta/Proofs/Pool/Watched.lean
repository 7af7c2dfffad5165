import CatalogDelta.Proofs.Act.Watched
import CatalogDelta.Proofs.Site.Snapshot

/-!
# Services under watch

A scan takes its clients from a pool. Under watch, a lease that is opened, closed or refused is a
deed, and so is every call of a leased client and every question for an update time. Watched
services do what the plain ones do (`Pool.Host.watchedServices_watch`), for every host, every client
and every source of update times.
-/

namespace CatalogDelta

open Act

variable {σ κ α : Type}

def Client.watched (client : Client σ) : Client (Watched σ) where
  kind := client.kind
  listDatabases := client.listDatabases.watched fun answer => [.said (.databases answer)]
  listTables database := (client.listTables database).watched fun answer =>
    [.said (.tables database answer)]
  listPartitions table := (client.listPartitions table).watched fun answer =>
    [.said (.partitions table answer)]
  close := client.close.watched fun _ => []

/-- The deeds of a lease: it is refused for want of a connection, or it is opened, something is done
under it, and it is closed. -/
def UnderLease (after : Deeds → Except Fault α → Prop) (done : Deeds) (answer : Except Fault α) :
    Prop :=
  (∃ fault, done = [.refused fault] ∧ answer = .error fault ∧
      fault.kind.isA .connectionFailure = true) ∨
    ∃ inside, done = .opened :: inside ++ [.closed] ∧ after inside answer

/-- Watched services do what plain ones do. -/
structure ScanServices.Watch (watching : ScanServices (Watched σ)) (services : ScanServices σ) :
    Prop where
  lease : ∀ {α : Type} {watchedWork : Client (Watched σ) → Act (Watched σ) α}
    {work : Client σ → Act σ α} {after : Deeds → Except Fault α → Prop},
    (∀ client : Client σ, Follows (watchedWork client.watched) (work client) after) →
      Follows (watching.lease watchedWork) (services.lease work) (UnderLease after)
  updateTime : ∀ entity, Follows (watching.updateTime entity) (services.updateTime entity)
    fun done answer => done = [.said (.updateTime entity answer)]
  clock : Follows watching.clock services.clock Silently

namespace Pool.Host

variable [DecidableEq κ] (host : Host σ κ)

/-- The services of a host with a source of update times and a clock. -/
def services (updateTime : Entity → Act σ Int) (clock : σ → Int) : ScanServices σ where
  lease work := host.lease work
  updateTime := updateTime
  clock := view clock

def acquiring : Except Fault κ → Deeds
  | .ok _ => [.opened]
  | .error fault => [.refused fault]

/-- A lease under watch. -/
def watchedLease (work : Client (Watched σ) → Act (Watched σ) α) : Act (Watched σ) α := do
  let client ← host.acquire.watched acquiring
  let outcome ← attempt (work (host.client client).watched)
  (host.release client).watched fun _ => [.closed]
  settle outcome

def watchedServices (updateTime : Entity → Act σ Int) (clock : σ → Int) :
    ScanServices (Watched σ) where
  lease work := host.watchedLease work
  updateTime entity := (updateTime entity).watched fun answer => [.said (.updateTime entity answer)]
  clock := view fun outside => clock outside.inner

variable {host}

/-- A client is always released, whatever its pool has come to. -/
theorem release_ok (client : κ) (stage : Stage σ) :
    (runOn (host.release client) stage).1 = .ok () := by
  rcases given : (host.pool stage.outside).giveBack client with ⟨orphaned, pool⟩
  simp only [release, runOn_bind, runOn_view, given, put, runOn_change]
  cases orphaned with
  | true => exact (closeClient_run host client _).1
  | false => rfl

theorem watchedLease_follows {watchedWork : Client (Watched σ) → Act (Watched σ) α}
    {work : Client σ → Act σ α} {after : Deeds → Except Fault α → Prop}
    (works : ∀ client : Client σ, Follows (watchedWork client.watched) (work client) after) :
    Follows (host.watchedLease watchedWork) (host.lease work) (UnderLease after) := by
  have acquired : Follows (host.acquire.watched acquiring) host.acquire fun done answer =>
      done = acquiring answer ∧ ∀ fault, answer = .error fault → fault.kind = .connectionFailure :=
    fun stage before => ⟨_, rfl, rfl, fun _ => kind_of_acquire⟩
  have released (client : κ) : Follows ((host.release client).watched fun _ => [.closed])
      (host.release client) fun done answer => done = [.closed] ∧ answer = .ok () :=
    fun stage before => ⟨_, rfl, rfl, release_ok client stage⟩
  unfold watchedLease lease
  refine acquired.bind ?_ ?_
  · rintro _ client ⟨rfl, _⟩
    refine (works (host.client client)).attempt_bind ?_
    intro inside outcome holds
    refine (released client).bind ?_ ?_
    · rintro _ _ ⟨rfl, _⟩
      refine (follows_settle outcome).imp ?_
      rintro _ _ ⟨rfl, rfl⟩
      exact .inr ⟨inside, rfl, holds⟩
    · rintro _ fault ⟨_, failed⟩
      exact nomatch failed
  · rintro _ fault ⟨rfl, lost⟩
    refine .inl ⟨fault, rfl, rfl, ?_⟩
    rw [lost fault rfl]
    rfl

/-- **Watching changes nothing**: the watched services of a host do what its services do. -/
theorem watchedServices_watch (updateTime : Entity → Act σ Int) (clock : σ → Int) :
    (host.watchedServices updateTime clock).Watch (host.services updateTime clock) where
  lease works := watchedLease_follows works
  updateTime _ _ _ := ⟨_, rfl, rfl⟩
  clock := follows_view clock

end Pool.Host
end CatalogDelta
