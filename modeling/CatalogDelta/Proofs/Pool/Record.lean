import CatalogDelta.Proofs.Act.Converses
import CatalogDelta.Proofs.Pool.Lease

/-!
# Leases on the record

Let every call of the clients of a pool, and every making of a client, be put on record. A lease
from an open pool with a free slot then converses as its work does, perhaps after the making of a
client, and it leaves as many free slots and as many clients out as before, however it ends.
-/

namespace CatalogDelta

open Act

/-- Every call of the client is one exchange. -/
structure Client.Records {σ π : Type} (client : Client σ) (heard : σ → List Exchange)
    (base : σ → Prop) (kept : σ → π) : Prop where
  databases : Speaks heard base kept client.listDatabases .databases
  tables : ∀ database, Speaks heard base kept (client.listTables database) (.tables database)
  partitions : ∀ table, Speaks heard base kept (client.listPartitions table) (.partitions table)

/-- The calls of the client converse wherever the outside meets a condition. -/
structure Client.Talks {σ : Type} (client : Client σ) (heard : σ → List Exchange)
    (held : σ → Prop) : Prop where
  databases : Converses heard held client.listDatabases (Said .databases)
  tables : ∀ database, Converses heard held (client.listTables database) (Said (.tables database))
  partitions : ∀ table,
    Converses heard held (client.listPartitions table) (Said (.partitions table))

/-- What is kept may stand as it does all along. -/
theorem Client.Records.talks {σ π : Type} {client : Client σ} {heard : σ → List Exchange}
    {base : σ → Prop} {kept : σ → π} (records : client.Records heard base kept)
    (held : π → Prop) : client.Talks heard fun outside => base outside ∧ held (kept outside) where
  databases := records.databases.converses held fun _ _ => View.eq_error_of_lostConnection
  tables database :=
    (records.tables database).converses held fun _ _ => View.eq_error_of_lostConnection
  partitions table :=
    (records.partitions table).converses held fun _ _ => View.eq_error_of_lostConnection

namespace Pool.Host

variable {σ κ : Type}

/-- The making of a client and the calls of the clients are on the record, and neither touches the
pool. What is done to the pool is not on the record. -/
structure Records (host : Host σ κ) (heard : σ → List Exchange) (base : σ → Prop) : Prop extends
    host.Steady base where
  heard_setPool : ∀ pool outside, heard (host.setPool pool outside) = heard outside
  make : Speaks heard base host.pool host.make fun answer => .making (answer.map fun _ => ())
  client : ∀ key, (host.client key).Records heard base host.pool

variable {host : Host σ κ} {heard : σ → List Exchange} {base : σ → Prop} {free inUse : Nat}

/-- What is done to the pool leaves the record as it is. -/
theorem Records.steady_heard (records : host.Records heard base) (before : List Exchange) :
    host.Steady fun outside => heard outside = before ∧ base outside where
  pool_setPool := records.pool_setPool
  base_setPool pool outside met :=
    ⟨(records.heard_setPool pool outside).trans met.1, records.base_setPool pool outside met.2⟩

theorem Records.at_setPool (records : host.Records heard base) {pool : Pool κ} {outside : σ}
    (met : base outside) (stands : pool.Stands free inUse) :
    host.At base free inUse (host.setPool pool outside) := by
  refine ⟨records.base_setPool pool outside met, ?_⟩
  rw [records.pool_setPool]
  exact stands

variable [DecidableEq κ]

/-- A client is checked out, or the making of a new one fails. -/
theorem checkOut_run (records : host.Records heard base) {stage : Stage σ}
    (met : host.At base free inUse stage.outside) :
    (∃ client talk, AtMostMaking talk ∧ (runOn host.checkOut stage).1 = .ok client ∧
      heard (runOn host.checkOut stage).2.outside = heard stage.outside ++ talk ∧
      host.At base free (inUse + 1) (runOn host.checkOut stage).2.outside) ∨
    ∃ cause, (runOn host.checkOut stage).1 = .error cause ∧
      heard (runOn host.checkOut stage).2.outside =
        heard stage.outside ++ [.making (.error cause)] ∧
      host.At base free inUse (runOn host.checkOut stage).2.outside := by
  unfold checkOut
  rw [runOn_bind, runOn_view]
  dsimp only
  cases taken : (host.pool stage.outside).takeIdle? with
  | some found =>
    refine .inl ⟨found.1, [], .inl rfl, ?_⟩
    simp only [put, runOn_bind, runOn_change, runOn_pure, records.heard_setPool, List.append_nil,
      true_and]
    exact records.at_setPool met.1 (met.2.takeIdle? taken)
  | none =>
    obtain ⟨added, still, same, _⟩ := records.make stage met.1
    have stands : (host.pool (runOn host.make stage).2.outside).Stands free inUse := by
      rw [same]
      exact met.2
    cases made : (runOn host.make stage).1 with
    | error cause =>
      rw [made] at added
      simp only [runOn_bind_of_error made]
      exact .inr ⟨cause, rfl, added, still, stands⟩
    | ok client =>
      rw [made] at added
      refine .inl ⟨client, [.making (.ok ())], .inr rfl, ?_⟩
      simp only [runOn_bind_of_ok made, put, runOn_bind, runOn_note, runOn_view, runOn_change,
        runOn_pure, records.heard_setPool, true_and]
      exact ⟨added, records.at_setPool still (stands.enter client)⟩

/-- A client is acquired, or the making of a new one fails and the slot is returned. -/
theorem acquire_run (records : host.Records heard base) {stage : Stage σ}
    (met : host.At base (free + 1) inUse stage.outside) :
    (∃ client talk, AtMostMaking talk ∧ (runOn host.acquire stage).1 = .ok client ∧
      heard (runOn host.acquire stage).2.outside = heard stage.outside ++ talk ∧
      host.At base free (inUse + 1) (runOn host.acquire stage).2.outside) ∨
    ∃ cause, (runOn host.acquire stage).1 = .error (makingFault cause) ∧
      heard (runOn host.acquire stage).2.outside =
        heard stage.outside ++ [.making (.error cause)] ∧
      host.At base (free + 1) inUse (runOn host.acquire stage).2.outside := by
  obtain ⟨taken, slot, left⟩ := met.2.takeSlot?
  unfold acquire
  simp only [runOn_bind, runOn_view, met.2.isOpen, slot, put, runOn_change, runOn_attempt,
    Bool.false_eq_true, ↓reduceIte]
  obtain ⟨next, leads⟩ : ∃ next : Stage σ,
    next = { outside := host.setPool taken stage.outside, journal := stage.journal } := ⟨_, rfl⟩
  have stillHeard : heard next.outside = heard stage.outside := by
    rw [leads]
    exact records.heard_setPool taken stage.outside
  have metNext : host.At base free inUse next.outside := by
    rw [leads]
    exact records.at_setPool met.1 left
  rw [← leads]
  rcases checkOut_run records metNext with
    ⟨client, talk, made, given, added, out⟩ | ⟨cause, failed, added, back⟩
  · refine .inl ⟨client, talk, made, ?_⟩
    simp only [given, runOn_pure, added, stillHeard, out, and_self]
  · refine .inr ⟨cause, ?_⟩
    simp only [failed, runOn_bind, runOn_view, runOn_change, runOn_throw, records.heard_setPool,
      added, stillHeard, true_and]
    exact records.at_setPool back.1
      ⟨back.2.isOpen, congrArg (· + 1) back.2.free_eq, back.2.inUse_eq⟩

/-- **A lease converses as its work does**, after the making of the client if one is made. -/
theorem lease_converses (records : host.Records heard base) {α : Type} {work : Client σ → Act σ α}
    {after : List Exchange → Except Fault α → Prop}
    (works : ∀ (held : σ → Prop) (client : Client σ), client.Talks heard held →
      Converses heard held (work client) after) :
    Converses heard (host.At base (free + 1) inUse) (host.lease work) fun talk answer =>
      ∃ made rest, AtMostMaking made ∧ talk = made ++ rest ∧ after rest answer := by
  intro stage met
  unfold lease
  rcases acquire_run records met with
    ⟨client, made, mostly, acquired, added, out⟩ | ⟨cause, failed, added, back⟩
  · obtain ⟨talk, said, still, settled⟩ :=
      works _ _ ((records.client client).talks (Pool.Stands free (inUse + 1))) _ out
    obtain ⟨_, released, ⟨sameHeard, kept⟩, back⟩ :=
      release_ends (records.steady_heard _) client _ ⟨⟨rfl, still.1⟩, still.2⟩
    rw [runOn_bind_of_ok acquired, runOn_bind, runOn_attempt]
    simp only [runOn_bind_of_ok released, runOn_settle]
    refine ⟨made ++ talk, ?_, ⟨kept, back⟩, ?_⟩
    · rw [sameHeard, said, added, List.append_assoc]
    · rcases settled with ⟨calm, holds⟩ | ⟨fault, lostFault, lost⟩
      · exact .inl ⟨mostly.calm.append calm, made, talk, mostly, rfl, holds⟩
      · exact .inr ⟨fault, lostFault, mostly.calm.append_lost lost⟩
  · rw [runOn_bind_of_error failed]
    refine ⟨_, added, back, .inr ⟨makingFault cause, rfl, [], _, rfl, ?_, rfl⟩⟩
    exact fun _ member => absurd member List.not_mem_nil

end Pool.Host
end CatalogDelta
