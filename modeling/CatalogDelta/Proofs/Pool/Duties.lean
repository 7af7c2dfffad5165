import CatalogDelta.Pool.Basic
import Mathlib.Algebra.Order.Group.Multiset

/-!
# Who has to close a client

Every client that has been made is in one place: with a lease that has yet to enter it, entered in
the pool, owed a closing by somebody, or closed. The indivisible steps of a pool move a client from
one of these places to another, and they do so with at most one client for each time it was made.
-/

namespace CatalogDelta.Pool

variable {κ : Type} [DecidableEq κ]

/-- The places of the clients that have been made: some are brought by leases that have yet to enter
them, some are held by leases, some are owed a closing, and some have been closed. -/
structure Duties (pool : Pool κ) (made : List κ) (closings : κ → Nat)
    (brought held owed : Multiset κ) : Prop where
  distinct : made.Nodup
  placed : ∀ client, brought.count client + pool.created.count client + owed.count client +
    closings client = made.count client
  kept : pool.closed = false → ∀ client,
    pool.created.count client = pool.idle.count client + held.count client
  idle_eq_nil : pool.closed = true → pool.idle = []
  awaited : pool.closed = true → ∀ client, pool.created.count client ≤ held.count client

variable {pool : Pool κ} {made : List κ} {closings : κ → Nat} {brought held owed : Multiset κ}

theorem Duties.ofSize (size : Nat) : (ofSize size : Pool κ).Duties [] (fun _ => 0) 0 0 0 where
  distinct := List.nodup_nil
  placed _ := rfl
  kept _ _ := rfl
  idle_eq_nil := nofun
  awaited := nofun

/-- A client is in one place at most. -/
theorem Duties.placed_le_one (duties : pool.Duties made closings brought held owed) (client : κ) :
    brought.count client + pool.created.count client + owed.count client + closings client ≤ 1 := by
  rw [duties.placed client]
  exact List.nodup_iff_count_le_one.mp duties.distinct client

theorem Duties.closings_le_one (duties : pool.Duties made closings brought held owed)
    (client : κ) : closings client ≤ 1 := by
  have one := duties.placed_le_one client
  omega

/-- An idle client has not been closed. -/
theorem Duties.closings_of_mem_idle (duties : pool.Duties made closings brought held owed)
    {client : κ} (member : client ∈ pool.idle) : closings client = 0 := by
  have idle : 0 < pool.idle.count client := List.count_pos_iff.mpr member
  have isOpen : pool.closed = false := by
    rw [← Bool.not_eq_true]
    intro closed
    rw [duties.idle_eq_nil closed] at member
    exact List.not_mem_nil member
  have kept := duties.kept isOpen client
  have one := duties.placed_le_one client
  omega

/-- A client that is brought has not been closed. -/
theorem Duties.closings_of_brought {client : κ}
    (duties : pool.Duties made closings (client ::ₘ brought) held owed) :
    closings client = 0 := by
  have one := duties.placed_le_one client
  rw [Multiset.count_cons_self] at one
  omega

/-- When nothing is left to be done, every client that has been made has been closed once. -/
theorem Duties.closings_eq_one (duties : pool.Duties made closings 0 0 0)
    (closed : pool.closed = true) {client : κ} (member : client ∈ made) : closings client = 1 := by
  have placed := duties.placed client
  have awaited := duties.awaited closed client
  have once : made.count client = 1 := List.count_eq_one_of_mem duties.distinct member
  simp only [Multiset.count_zero] at placed awaited
  omega

/-- Slots do not matter to who has to close a client. -/
theorem Duties.congr (duties : pool.Duties made closings brought held owed) {other : Pool κ}
    (created_eq : other.created = pool.created) (idle_eq : other.idle = pool.idle)
    (closed_eq : other.closed = pool.closed) :
    other.Duties made closings brought held owed where
  distinct := duties.distinct
  placed := by
    rw [created_eq]
    exact duties.placed
  kept := by
    rw [closed_eq, created_eq, idle_eq]
    exact duties.kept
  idle_eq_nil := by
    rw [closed_eq, idle_eq]
    exact duties.idle_eq_nil
  awaited := by
    rw [closed_eq, created_eq]
    exact duties.awaited

theorem Duties.takeSlot? (duties : pool.Duties made closings brought held owed) {rest : Pool κ}
    (slot : pool.takeSlot? = some rest) : rest.Duties made closings brought held owed := by
  unfold Pool.takeSlot? at slot
  split at slot
  · contradiction
  · cases slot
    exact duties.congr rfl rfl rfl

theorem Duties.returnSlot (duties : pool.Duties made closings brought held owed) :
    pool.returnSlot.Duties made closings brought held owed := duties.congr rfl rfl rfl

theorem count_append_singleton (clients : List κ) (client other : κ) :
    (clients ++ [client]).count other = clients.count other + if other = client then 1 else 0 := by
  rw [List.count_append, List.count_singleton]
  simp only [beq_iff_eq, @eq_comm κ client other]

theorem count_filter_ne (clients : List κ) (client other : κ) :
    (clients.filter (· ≠ client)).count other =
      if other = client then 0 else clients.count other := by
  split
  · rename_i same
    refine List.count_eq_zero.mpr fun member => ?_
    exact of_decide_eq_true (List.mem_filter.mp member).2 same
  · rename_i different
    exact List.count_filter (decide_eq_true different)

/-- The client that comes out of the idle ones is held from now on. -/
theorem Duties.takeIdle? (duties : pool.Duties made closings brought held owed) {client : κ}
    {rest : Pool κ} (found : pool.takeIdle? = some (client, rest)) :
    client ∈ pool.idle ∧ rest.Duties made closings brought (client ::ₘ held) owed := by
  unfold Pool.takeIdle? at found
  split at found
  · contradiction
  · rename_i last
    cases found
    have around : pool.idle.dropLast ++ [client] = pool.idle :=
      List.dropLast_append_getLast? client last
    have member : client ∈ pool.idle := List.mem_of_getLast? last
    refine ⟨member, { duties with kept := ?_, idle_eq_nil := ?_, awaited := ?_ }⟩
    · intro isOpen other
      have kept := duties.kept isOpen other
      rw [← around, count_append_singleton] at kept
      rw [Multiset.count_cons]
      dsimp only
      omega
    · intro closed
      rw [duties.idle_eq_nil closed] at member
      exact absurd member List.not_mem_nil
    · intro closed other
      exact (duties.awaited closed other).trans (Multiset.count_le_count_cons other client held)

/-- A new client is brought by the lease for which it was made. -/
theorem Duties.make (duties : pool.Duties made closings brought held owed) {client : κ}
    (new : client ∉ made) :
    pool.Duties (made ++ [client]) closings (client ::ₘ brought) held owed := by
  refine { duties with distinct := ?_, placed := ?_ }
  · rw [← List.concat_eq_append]
    exact duties.distinct.concat new
  · intro other
    rw [count_append_singleton, Multiset.count_cons, ← duties.placed other]
    omega

/-- A client that is brought is entered, and held from now on. -/
theorem Duties.enter {client : κ}
    (duties : pool.Duties made closings (client ::ₘ brought) held owed) :
    (pool.enter client).Duties made closings brought (client ::ₘ held) owed := by
  have one := duties.placed_le_one client
  rw [Multiset.count_cons_self] at one
  have unknown : client ∉ pool.created := List.count_eq_zero.mp (by omega)
  have created_eq : (pool.enter client).created = pool.created ++ [client] :=
    if_neg fun known => unknown (List.contains_iff_mem.mp known)
  refine { duties with placed := ?_, kept := ?_, awaited := ?_ }
  · intro other
    have placed := duties.placed other
    rw [Multiset.count_cons] at placed
    rw [created_eq, count_append_singleton, ← placed]
    omega
  · intro isOpen other
    have kept := duties.kept isOpen other
    rw [created_eq, count_append_singleton, Multiset.count_cons, kept]
    exact Nat.add_assoc _ _ _
  · intro closed other
    rw [created_eq, count_append_singleton, Multiset.count_cons]
    exact Nat.add_le_add_right (duties.awaited closed other) _

/-- A client that is given back to an open pool is idle. A closed pool has it closed by the lease
that held it, unless it was handed over to be closed when the pool was shut. -/
theorem Duties.giveBack {client : κ}
    (duties : pool.Duties made closings brought (client ::ₘ held) owed) :
    (pool.giveBack client).2.Duties made closings brought held
      (if (pool.giveBack client).1 then client ::ₘ owed else owed) := by
  obtain ⟨size, free, idle, created, inUse, closed⟩ := pool
  cases closed with
  | false =>
    refine { duties with kept := ?_, idle_eq_nil := nofun, awaited := nofun }
    intro isOpen other
    have kept := duties.kept isOpen other
    rw [Multiset.count_cons] at kept
    change created.count other = (idle ++ [client]).count other + held.count other
    rw [count_append_singleton]
    dsimp only at kept
    omega
  | true =>
    have awaited := duties.awaited rfl
    simp only [Pool.giveBack, Bool.not_true, Bool.false_eq_true, ↓reduceIte]
    split
    · rename_i known
      have one := duties.placed_le_one client
      have once : 0 < created.count client :=
        List.count_pos_iff.mpr (List.contains_iff_mem.mp known)
      dsimp only at one awaited
      refine { duties with placed := ?_, kept := nofun, awaited := ?_ }
      · intro other
        have placed := duties.placed other
        dsimp only at placed ⊢
        rw [count_filter_ne, if_pos rfl, Multiset.count_cons]
        split
        · rename_i same
          subst same
          omega
        · omega
      · intro _ other
        have enough := awaited other
        rw [Multiset.count_cons] at enough
        dsimp only
        rw [count_filter_ne]
        split
        · exact Nat.zero_le _
        · rename_i different
          rwa [if_neg different] at enough
    · rename_i unknown
      refine { duties with kept := nofun, awaited := ?_ }
      intro _ other
      have enough := awaited other
      rw [Multiset.count_cons] at enough
      split at enough
      · rename_i same
        subst same
        rw [List.count_eq_zero.mpr fun known => unknown (List.contains_iff_mem.mpr known)]
        exact Nat.zero_le _
      · exact enough

/-- Who shuts the pool has to close the clients that are handed over. -/
theorem Duties.shut (duties : pool.Duties made closings brought held owed) :
    pool.shut.2.Duties made closings brought held (↑pool.shut.1 + owed) where
  distinct := duties.distinct
  placed client := by
    have placed := duties.placed client
    rw [Multiset.count_add, Multiset.coe_count]
    change brought.count client + 0 + (pool.created.count client + owed.count client) + _ = _
    omega
  kept := nofun
  idle_eq_nil _ := rfl
  awaited _ _ := Nat.zero_le _

/-- A client that is owed a closing is closed. -/
theorem Duties.close {client : κ}
    (duties : pool.Duties made closings brought held (client ::ₘ owed)) {closingsAfter : κ → Nat}
    (counted : ∀ other, closingsAfter other = closings other + if other = client then 1 else 0) :
    pool.Duties made closingsAfter brought held owed := by
  refine { duties with placed := ?_ }
  intro other
  have placed := duties.placed other
  rw [Multiset.count_cons] at placed
  rw [counted]
  omega

end CatalogDelta.Pool
