import CatalogDelta.Pool.Basic
import Mathlib.Data.List.Nodup
import Mathlib.Data.List.Perm.Subperm

/-!
# The books of a pool

At any time a pool knows of clients that are held and of clients that are idle, and every slot is
free, or belongs to a client that is held, or is taken by a lease that has no client yet. The
indivisible steps of a pool keep these books in order.
-/

namespace CatalogDelta.Pool

variable {κ : Type}

/-- The books of a pool with `size` slots are in order: `taken` slots belong to leases that have no
client yet, and of the clients that have been made some are held. -/
structure Books (size taken : Nat) (made held : List κ) (pool : Pool κ) : Prop where
  inUse_eq : pool.inUse = held.length
  slots_eq : pool.free + held.length + taken = size
  apart : (held ++ pool.idle).Nodup
  distinct : made.Nodup
  held_made : held ⊆ made
  idle_made : pool.idle ⊆ made
  created_made : pool.created ⊆ made
  within : pool.closed = false → made.length ≤ size
  placed : pool.closed = false → made ⊆ held ++ pool.idle
  idle_eq_nil : pool.closed = true → pool.idle = []

variable {size taken : Nat} {made held : List κ} {pool : Pool κ}

theorem Books.ofSize (size : Nat) : Books size 0 [] [] (ofSize size : Pool κ) where
  inUse_eq := rfl
  slots_eq := rfl
  apart := List.nodup_nil
  distinct := List.nodup_nil
  held_made := List.nil_subset _
  idle_made := List.nil_subset _
  created_made := List.nil_subset _
  within _ := Nat.zero_le size
  placed _ := List.nil_subset _
  idle_eq_nil _ := rfl

theorem takeSlot?_eq_none_iff : pool.takeSlot? = none ↔ pool.free = 0 := by
  unfold takeSlot?
  split
  · rename_i none
    exact iff_of_true rfl none
  · rename_i some
    exact iff_of_false nofun some

theorem takeIdle?_eq_none_iff : pool.takeIdle? = none ↔ pool.idle = [] := by
  rw [← List.getLast?_eq_none_iff]
  unfold takeIdle?
  split
  · rename_i last
    exact iff_of_true rfl last
  · rename_i last
    exact iff_of_false nofun (last ▸ nofun)

/-- A slot that is returned stands as if it had not been taken. -/
theorem returnSlot_of_takeSlot? {rest : Pool κ} (slot : pool.takeSlot? = some rest) :
    rest.returnSlot = pool := by
  unfold takeSlot? at slot
  split at slot
  · contradiction
  · rename_i some
    cases slot
    obtain ⟨size, free, idle, created, inUse, closed⟩ := pool
    simp only [returnSlot, Pool.mk.injEq, and_self, and_true, true_and]
    exact Nat.succ_pred some

theorem closed_takeSlot? {rest : Pool κ} (slot : pool.takeSlot? = some rest) :
    rest.closed = pool.closed := by
  rw [← returnSlot_of_takeSlot? slot]
  rfl

theorem closed_takeIdle? {client : κ} {rest : Pool κ}
    (found : pool.takeIdle? = some (client, rest)) : rest.closed = pool.closed := by
  unfold takeIdle? at found
  split at found
  · contradiction
  · cases found
    rfl

theorem mem_idle_of_takeIdle? {client : κ} {rest : Pool κ}
    (found : pool.takeIdle? = some (client, rest)) : client ∈ pool.idle := by
  unfold takeIdle? at found
  split at found
  · contradiction
  · rename_i last
    cases found
    exact List.mem_of_getLast? last

theorem Books.takeSlot? (books : pool.Books size taken made held) {rest : Pool κ}
    (slot : pool.takeSlot? = some rest) : rest.Books size (taken + 1) made held := by
  unfold Pool.takeSlot? at slot
  split at slot
  · contradiction
  · rename_i some
    cases slot
    have slots_eq := books.slots_eq
    refine { books with slots_eq := ?_ }
    dsimp only
    omega

theorem Books.returnSlot (books : pool.Books size (taken + 1) made held) :
    pool.returnSlot.Books size taken made held := by
  have slots_eq := books.slots_eq
  refine { books with slots_eq := ?_ }
  dsimp only [Pool.returnSlot]
  omega

/-- The client that comes out of the idle ones is held from now on. -/
theorem Books.takeIdle? (books : pool.Books size (taken + 1) made held) {client : κ}
    {rest : Pool κ} (found : pool.takeIdle? = some (client, rest)) :
    rest.Books size taken made (held ++ [client]) := by
  unfold Pool.takeIdle? at found
  split at found
  · contradiction
  · rename_i last
    cases found
    have around : pool.idle.dropLast ++ [client] = pool.idle :=
      List.dropLast_append_getLast? client last
    have moved : (held ++ [client] ++ pool.idle.dropLast).Perm (held ++ pool.idle) := by
      rw [List.append_assoc]
      refine List.Perm.append_left held ?_
      conv_rhs => rw [← around]
      exact List.perm_append_comm
    have slots_eq := books.slots_eq
    refine { books with
      inUse_eq := ?_, slots_eq := ?_, apart := ?_, held_made := ?_, idle_made := ?_, placed := ?_,
      idle_eq_nil := ?_ }
    · rw [List.length_append, books.inUse_eq, List.length_singleton]
    · rw [List.length_append, List.length_singleton]
      dsimp only
      omega
    · exact moved.nodup_iff.mpr books.apart
    · refine List.append_subset.mpr ⟨books.held_made, ?_⟩
      exact List.cons_subset.mpr ⟨books.idle_made (List.mem_of_getLast? last), List.nil_subset _⟩
    · exact fun _ member => books.idle_made (List.dropLast_subset _ member)
    · exact fun isOpen _ member => moved.mem_iff.mpr (books.placed isOpen member)
    · intro closed
      have none := books.idle_eq_nil closed
      rw [none] at last
      exact nomatch last

theorem Books.shut (books : pool.Books size taken made held) :
    pool.shut.2.Books size taken made held where
  inUse_eq := books.inUse_eq
  slots_eq := books.slots_eq
  apart := by
    have distinct := (List.nodup_append.mp books.apart).1
    rw [Pool.shut, List.append_nil]
    exact distinct
  distinct := books.distinct
  held_made := books.held_made
  idle_made := List.nil_subset _
  created_made := List.nil_subset _
  within := nofun
  placed := nofun
  idle_eq_nil _ := rfl

variable [DecidableEq κ]

theorem closed_giveBack (pool : Pool κ) (client : κ) :
    (pool.giveBack client).2.closed = pool.closed := by
  obtain ⟨size, free, idle, created, inUse, closed⟩ := pool
  cases closed with
  | false => rfl
  | true =>
    unfold giveBack
    dsimp only [Bool.not_true]
    split
    · contradiction
    · split <;> rfl

/-- A new client may be entered if none is idle: in an open pool every client that has been made is
then held, so that there is room for one more. -/
theorem Books.enter (books : pool.Books size (taken + 1) made held) (none : pool.idle = [])
    {client : κ} (new : client ∉ made) :
    (pool.enter client).Books size taken (made ++ [client]) (held ++ [client]) := by
  have unheld : client ∉ held := fun member => new (books.held_made member)
  have slots_eq := books.slots_eq
  have alone (pool : Pool κ) (none : pool.idle = []) (clients : List κ) :
      clients ++ pool.idle = clients := by rw [none, List.append_nil]
  have entered : (pool.enter client).idle = [] := none
  refine {
    inUse_eq := ?_, slots_eq := ?_, apart := ?_, distinct := ?_, held_made := ?_,
    idle_made := ?_, created_made := ?_, within := ?_, placed := ?_, idle_eq_nil := ?_ }
  · rw [List.length_append, List.length_singleton, ← books.inUse_eq]
    rfl
  · rw [List.length_append, List.length_singleton]
    dsimp only [Pool.enter]
    omega
  · have apart := books.apart
    rw [alone pool none] at apart
    rw [alone _ entered, ← List.concat_eq_append]
    exact apart.concat unheld
  · rw [← List.concat_eq_append]
    exact books.distinct.concat new
  · exact List.append_subset.mpr
      ⟨List.subset_append_of_subset_left _ books.held_made, List.subset_append_right _ _⟩
  · rw [entered]
    exact List.nil_subset _
  · unfold Pool.enter
    dsimp only
    split
    · exact List.subset_append_of_subset_left _ books.created_made
    · exact List.append_subset.mpr
        ⟨List.subset_append_of_subset_left _ books.created_made, List.subset_append_right _ _⟩
  · intro isOpen
    have placed := books.placed isOpen
    rw [alone pool none] at placed
    have fits : made.length ≤ held.length := (books.distinct.subperm placed).length_le
    rw [List.length_append, List.length_singleton]
    omega
  · intro isOpen
    have placed := books.placed isOpen
    rw [alone pool none] at placed
    rw [alone _ entered]
    exact List.append_subset.mpr
      ⟨List.subset_append_of_subset_left _ placed, List.subset_append_right _ _⟩
  · exact fun _ => entered

/-- A client that is given back is not held any more, and its slot has yet to be returned. -/
theorem Books.giveBack (books : pool.Books size taken made held) {place : Nat} {client : κ}
    (found : held[place]? = some client) :
    (pool.giveBack client).2.Books size (taken + 1) made (held.eraseIdx place) := by
  obtain ⟨inside, rfl⟩ := List.getElem?_eq_some_iff.mp found
  have taken_out : (held[place] :: held.eraseIdx place).Perm held :=
    List.getElem_cons_eraseIdx_perm inside
  have fewer : (held.eraseIdx place).length + 1 = held.length := taken_out.length_eq
  have still : held.eraseIdx place ⊆ held := List.eraseIdx_subset
  have member : held[place] ∈ made := books.held_made (List.getElem_mem inside)
  have slots_eq := books.slots_eq
  have inUse_eq : pool.inUse - 1 = (held.eraseIdx place).length := by
    rw [books.inUse_eq, ← fewer, Nat.add_sub_cancel]
  have left_eq : pool.free + (held.eraseIdx place).length + (taken + 1) = size := by omega
  obtain ⟨slots, free, idle, created, inUse, closed⟩ := pool
  cases closed with
  | true =>
    have apart := books.apart.sublist ((List.eraseIdx_sublist held place).append_right idle)
    have kept (created : List κ) (subset : created ⊆ made) :
        Books size (taken + 1) made (held.eraseIdx place)
          ⟨slots, free, idle, created, inUse - 1, true⟩ :=
      { books with
        inUse_eq, slots_eq := left_eq, apart, held_made := List.Subset.trans still books.held_made,
        created_made := subset, placed := nofun }
    simp only [Pool.giveBack, Bool.not_true, Bool.false_eq_true, ↓reduceIte]
    split
    · exact kept _ fun _ left => books.created_made (List.mem_of_mem_filter left)
    · exact kept _ books.created_made
  | false =>
    have moved : (held.eraseIdx place ++ (idle ++ [held[place]])).Perm (held ++ idle) := by
      rw [← List.append_assoc]
      refine (List.perm_append_singleton _ _).trans ?_
      exact taken_out.append_right idle
    simp only [Pool.giveBack, Bool.not_false, ↓reduceIte]
    refine { books with
      inUse_eq, slots_eq := left_eq, apart := moved.nodup_iff.mpr books.apart,
      held_made := List.Subset.trans still books.held_made, idle_made := ?_, placed := ?_,
      idle_eq_nil := nofun }
    · exact List.append_subset.mpr
        ⟨books.idle_made, List.cons_subset.mpr ⟨member, List.nil_subset _⟩⟩
    · exact fun isOpen _ known => moved.mem_iff.mpr (books.placed isOpen known)

end CatalogDelta.Pool
