import CatalogDelta.Pool.Lease
import CatalogDelta.Proofs.Scan.View

/-!
# Leases from an open pool

A lease from an open pool with a free slot succeeds, and it leaves the pool open with as many free
slots and as many clients out as before. Hence services that lease from such a pool show the view by
which its clients answer.
-/

namespace CatalogDelta.Pool

/-- The pool is open, with so many slots free and so many clients out. -/
structure Stands {κ : Type} (free inUse : Nat) (pool : Pool κ) : Prop where
  isOpen : pool.closed = false
  free_eq : pool.free = free
  inUse_eq : pool.inUse = inUse

section Steps

variable {κ : Type} {pool : Pool κ} {free inUse : Nat}

theorem Stands.takeSlot? (stands : pool.Stands (free + 1) inUse) :
    ∃ taken, pool.takeSlot? = some taken ∧ taken.Stands free inUse := by
  refine ⟨{ pool with free := pool.free - 1 }, ?_, stands.isOpen, ?_, stands.inUse_eq⟩
  · rw [Pool.takeSlot?, stands.free_eq]
    exact if_neg (Nat.succ_ne_zero free)
  · simp only [stands.free_eq, Nat.add_one_sub_one]

theorem Stands.takeIdle? (stands : pool.Stands free inUse) {client : κ} {rest : Pool κ}
    (taken : pool.takeIdle? = some (client, rest)) : rest.Stands free (inUse + 1) := by
  unfold Pool.takeIdle? at taken
  split at taken
  · contradiction
  · cases taken
    exact ⟨stands.isOpen, stands.free_eq, congrArg (· + 1) stands.inUse_eq⟩

variable [DecidableEq κ]

theorem Stands.enter (stands : pool.Stands free inUse) (client : κ) :
    (pool.enter client).Stands free (inUse + 1) :=
  ⟨stands.isOpen, stands.free_eq, congrArg (· + 1) stands.inUse_eq⟩

/-- An open pool keeps a client that is given back. -/
theorem Stands.giveBack (stands : pool.Stands free (inUse + 1)) (client : κ) :
    ∃ kept, pool.giveBack client = (false, kept) ∧ kept.returnSlot.Stands (free + 1) inUse := by
  have free_eq : pool.free + 1 = free + 1 := congrArg (· + 1) stands.free_eq
  have inUse_eq : pool.inUse - 1 = inUse := by rw [stands.inUse_eq, Nat.add_one_sub_one]
  refine ⟨{ pool with inUse := pool.inUse - 1, idle := pool.idle ++ [client] }, ?_,
    stands.isOpen, free_eq, inUse_eq⟩
  simp only [Pool.giveBack, stands.isOpen, Bool.not_false, ↓reduceIte]

end Steps

namespace Host

open Act

variable {σ κ : Type}

/-- The condition holds and the pool stands at some numbers. -/
def At (host : Host σ κ) (base : σ → Prop) (free inUse : Nat) (outside : σ) : Prop :=
  base outside ∧ (host.pool outside).Stands free inUse

/-- The pool is kept as it is set, and the condition does not depend on it. -/
structure Steady (host : Host σ κ) (base : σ → Prop) : Prop where
  pool_setPool : ∀ pool outside, host.pool (host.setPool pool outside) = pool
  base_setPool : ∀ pool outside, base outside → base (host.setPool pool outside)

/-- A pool whose making of clients never fails and whose clients answer by a view, wherever the
outside meets a condition. Making and asking leave the pool alone. -/
structure Serves (host : Host σ κ) (base : σ → Prop) (view : View) : Prop extends
    host.Steady base where
  make : ∀ pool, Returns (fun outside => base outside ∧ host.pool outside = pool) host.make
  client : ∀ key pool,
    (host.client key).Shows (fun outside => base outside ∧ host.pool outside = pool) view

variable {host : Host σ κ} {base before : σ → Prop} {view : View} {free inUse : Nat}

/-- What reads the pool finds it standing at the same numbers. -/
theorem pool_bind_ends {β : Type} {next : Pool κ → Act σ β} {after : β → σ → Prop}
    (rest : ∀ pool, pool.Stands free inUse → Ends (host.At base free inUse) (next pool) after) :
    Ends (host.At base free inUse) (Act.view host.pool >>= next) after := by
  intro stage met
  rw [runOn_bind, runOn_view]
  exact rest _ met.2 stage met

theorem put_ends (steady : host.Steady base) {freeBefore inUseBefore : Nat} {pool : Pool κ}
    (stands : pool.Stands free inUse) :
    Ends (host.At base freeBefore inUseBefore) (host.put pool) fun _ =>
      host.At base free inUse := by
  refine ends_change fun outside met => ⟨steady.base_setPool pool outside met.1, ?_⟩
  rw [steady.pool_setPool]
  exact stands

theorem make_ends (serves : host.Serves base view) :
    Returns (host.At base free inUse) host.make := by
  intro stage met
  obtain ⟨client, made, kept, same⟩ := serves.make _ stage ⟨met.1, rfl⟩
  refine ⟨client, made, kept, ?_⟩
  rw [same]
  exact met.2

/-- Clients answer by the view at whatever numbers the pool stands. -/
theorem client_shows (serves : host.Serves base view) (key : κ) :
    (host.client key).Shows (host.At base free inUse) view := by
  have lift {α : Type} {act : Act σ α} {answer : Except Fault α}
      (given : ∀ pool, Gives (fun outside => base outside ∧ host.pool outside = pool) act answer) :
      Gives (host.At base free inUse) act answer := by
    intro stage met
    obtain ⟨ended, kept, same⟩ := given _ stage ⟨met.1, rfl⟩
    refine ⟨ended, kept, ?_⟩
    rw [same]
    exact met.2
  exact ⟨lift fun pool => (serves.client key pool).databases,
    fun database => lift fun pool => (serves.client key pool).tables database,
    fun table => lift fun pool => (serves.client key pool).partitions table⟩

variable [DecidableEq κ]

theorem checkOut_ends (serves : host.Serves base view) :
    Ends (host.At base free inUse) host.checkOut fun _ => host.At base free (inUse + 1) := by
  unfold checkOut
  refine pool_bind_ends fun pool stands => ?_
  cases taken : pool.takeIdle? with
  | some found =>
    exact (put_ends serves.toSteady (stands.takeIdle? taken)).bind fun _ => ends_pure _
  | none =>
    refine Ends.bind (make_ends serves) fun client => ?_
    refine Ends.bind (ends_note _ _ _) fun _ => ?_
    refine pool_bind_ends fun pool stands => ?_
    exact (put_ends serves.toSteady (stands.enter client)).bind fun _ => ends_pure _

theorem acquire_ends (serves : host.Serves base view) :
    Ends (host.At base (free + 1) inUse) host.acquire fun _ => host.At base free (inUse + 1) := by
  unfold acquire
  refine pool_bind_ends fun pool stands => ?_
  obtain ⟨taken, slot, left⟩ := stands.takeSlot?
  simp only [stands.isOpen, slot, Bool.false_eq_true, ↓reduceIte]
  refine (put_ends serves.toSteady left).bind fun _ => ?_
  exact (checkOut_ends serves).attempt_bind fun _ => ends_pure _

theorem release_ends (steady : host.Steady base) (client : κ) :
    Ends (host.At base free (inUse + 1)) (host.release client) fun _ =>
      host.At base (free + 1) inUse := by
  unfold release
  refine pool_bind_ends fun pool stands => ?_
  obtain ⟨kept, given, left⟩ := stands.giveBack client
  simp only [given, Bool.false_eq_true, ↓reduceIte]
  exact (put_ends steady left).bind fun _ => ends_pure _

/-- **A lease answers as its work does**, on every client that answers by the view. -/
theorem lease_gives (serves : host.Serves base view) {α : Type} {work : Client σ → Act σ α}
    {answer : Except Fault α}
    (works : ∀ (held : σ → Prop) (client : Client σ), client.Shows held view →
      Gives held (work client) answer) :
    Gives (host.At base (free + 1) inUse) (host.lease work) answer := by
  intro stage met
  obtain ⟨client, acquired, held⟩ := acquire_ends serves stage met
  obtain ⟨worked, stillHeld⟩ := works _ (host.client client) (client_shows serves client) _ held
  obtain ⟨_, released, back⟩ := release_ends serves.toSteady client _ stillHeld
  unfold lease
  rw [runOn_bind_of_ok acquired, runOn_bind, runOn_attempt]
  simp only [runOn_bind_of_ok released, runOn_settle, worked]
  exact ⟨trivial, back⟩

end Host
end CatalogDelta.Pool
