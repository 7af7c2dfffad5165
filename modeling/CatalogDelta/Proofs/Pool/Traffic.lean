import CatalogDelta.Pool.Traffic
import CatalogDelta.Proofs.Pool.Books
import CatalogDelta.Proofs.Pool.Duties
import CatalogDelta.Proofs.Pool.Register
import Mathlib.Algebra.BigOperators.Group.List.Basic
import Mathlib.Data.List.Perm.Basic

/-!
# Clients are closed once

However the leases and the closings of a pool interleave, every client that has been made is closed
by exactly one of them. What a call owes at a time can be read off how far it has come, and the
duties of all calls together are those of the pool. Main statement: `clients_closed_once`.
-/

namespace CatalogDelta.Pool

open Act

variable {σ κ : Type}

namespace Call

/-- The client that a lease has yet to enter. -/
def brought : Call κ → Multiset κ
  | .lease (.bringing client) => {client}
  | _ => 0

/-- The client that a lease has at work. -/
def held : Call κ → Multiset κ
  | .lease (.holding client) => {client}
  | _ => 0

/-- The clients that a call has yet to close. -/
def owed : Call κ → Multiset κ
  | .lease (.leaving client true) | .lease (.closing client) => {client}
  | .close (.closing _ left) => ↑left
  | _ => 0

/-- The call has shut the pool. -/
def hasShut : Call κ → Bool
  | .close (.closing _ _) | .close .ended => true
  | _ => false

/-- What is over owes nothing. -/
theorem free_of_isOver {call : Call κ} (ended : call.isOver = true) :
    call.brought = 0 ∧ call.held = 0 ∧ call.owed = 0 := by
  cases call with
  | lease state =>
    cases state with
    | ended => exact ⟨rfl, rfl, rfl⟩
    | _ => exact absurd ended Bool.false_ne_true
  | close state =>
    cases state with
    | ended => exact ⟨rfl, rfl, rfl⟩
    | _ => exact absurd ended Bool.false_ne_true

/-- What some calls have of something together. -/
def tally (part : Call κ → Multiset κ) (calls : List (Call κ)) : Multiset κ :=
  (calls.map part).sum

theorem tally_eq_zero {part : Call κ → Multiset κ} {calls : List (Call κ)}
    (nothing : ∀ call ∈ calls, part call = 0) : tally part calls = 0 := by
  refine List.sum_eq_zero fun _ member => ?_
  obtain ⟨call, inside, rfl⟩ := List.mem_map.mp member
  exact nothing call inside

theorem tally_of_perm {part : Call κ → Multiset κ} {calls others : List (Call κ)} {call : Call κ}
    (same : calls.Perm (call :: others)) : tally part calls = part call + tally part others := by
  unfold tally
  rw [(same.map part).sum_eq, List.map_cons, List.sum_cons]

end Call

variable [DecidableEq κ] {host : Host σ κ} {register : Register σ κ}

namespace Host

/-- The outside is as it should be, some clients are brought, held and owed, and the pool is closed
if it has been shut. -/
structure Owes (host : Host σ κ) (register : Register σ κ) (brought held owed : Multiset κ)
    (hasShut : Bool) (outside : σ) : Prop where
  valid : register.valid outside
  duties : (host.pool outside).Duties (register.made outside) (register.closings outside)
    brought held owed
  closed : hasShut = true → (host.pool outside).closed = true

variable {brought held owed : Multiset κ} {hasShut : Bool} {outside : σ} {stage after : Stage σ}
  {pool : Pool κ} {made : List κ} {closings : κ → Nat}

theorem Owes.reads (owes : host.Owes register brought held owed hasShut outside) :
    register.Reads host (host.pool outside) (register.made outside) (register.closings outside)
      outside := ⟨owes.valid, rfl, rfl, rfl⟩

theorem Owes.of_reads (reads : register.Reads host pool made closings outside)
    (duties : pool.Duties made closings brought held owed)
    (closed : hasShut = true → pool.closed = true) :
    host.Owes register brought held owed hasShut outside := by
  obtain ⟨valid, rfl, rfl, rfl⟩ := reads
  exact ⟨valid, duties, closed⟩

/-- A step of the pool that knows of the duties may be taken. -/
theorem Owes.withPool {broughtAfter heldAfter owedAfter : Multiset κ} {shutAfter : Bool}
    (registers : host.Registers register)
    (owes : host.Owes register brought held owed hasShut stage.outside)
    (duties : pool.Duties (register.made stage.outside) (register.closings stage.outside)
      broughtAfter heldAfter owedAfter) (closed : shutAfter = true → pool.closed = true) :
    host.Owes register broughtAfter heldAfter owedAfter shutAfter
      (host.withPool pool stage).outside :=
  .of_reads (registers.setPool pool owes.reads) duties closed

/-- A client that is owed a closing may be closed. -/
theorem Owes.closeClient (registers : host.Registers register) {client : κ}
    (owes : host.Owes register brought held (client ::ₘ owed) hasShut stage.outside) :
    host.Owes register brought held owed hasShut
      (runOn (host.closeClient client) stage).2.outside := by
  have placed := owes.duties.placed client
  rw [Multiset.count_cons_self] at placed
  have member : client ∈ register.made stage.outside := List.count_pos_iff.mp (by omega)
  rw [(closeClient_run host client stage).2]
  exact .of_reads (registers.close member owes.reads) (owes.duties.close fun _ => rfl) owes.closed

/-- **What a lease does next keeps the duties.** -/
theorem Owes.goOnLease? (registers : host.Registers register) {old new : LeaseState κ}
    (owes : host.Owes register ((Call.lease old).brought + brought) ((Call.lease old).held + held)
      ((Call.lease old).owed + owed) hasShut stage.outside)
    (gone : host.goOnLease? old stage = some (new, after)) :
    host.Owes register ((Call.lease new).brought + brought) ((Call.lease new).held + held)
      ((Call.lease new).owed + owed) hasShut after.outside := by
  have duties := owes.duties
  cases old with
  | begun =>
    simp only [Host.goOnLease?] at gone
    split at gone <;> cases gone <;> exact owes
  | admitted =>
    obtain ⟨pool, slot, same⟩ := Option.map_eq_some_iff.mp gone
    cases same
    refine owes.withPool registers (duties.takeSlot? slot) fun shut => ?_
    exact (closed_takeSlot? slot).trans (owes.closed shut)
  | placed =>
    simp only [Host.goOnLease?] at gone
    split at gone
    · rename_i client pool found
      cases gone
      simp only [Call.brought, Call.held, Call.owed, zero_add, Multiset.singleton_add]
        at duties ⊢
      refine owes.withPool registers (duties.takeIdle? found).2 fun shut => ?_
      exact (closed_takeIdle? found).trans (owes.closed shut)
    · cases gone
      exact owes
  | lacking =>
    simp only [Host.goOnLease?, bring, Option.some.injEq] at gone
    rcases ran : runOn host.make stage with ⟨answer, rest⟩
    rw [ran] at gone
    rcases registers.make owes.reads with ⟨client, made, new, reads⟩ | ⟨fault, failed, reads⟩
    · rw [ran] at made reads
      obtain rfl : answer = .ok client := made
      cases gone
      simp only [Call.brought, Call.held, Call.owed, zero_add, Multiset.singleton_add]
        at duties ⊢
      exact .of_reads reads (duties.make new) owes.closed
    · rw [ran] at failed reads
      obtain rfl : answer = .error fault := failed
      cases gone
      exact .of_reads reads duties owes.closed
  | bringing client =>
    cases gone
    simp only [Call.brought, Call.held, Call.owed, zero_add, Multiset.singleton_add]
      at duties ⊢
    exact owes.withPool registers duties.enter owes.closed
  | holding client =>
    simp only [Host.goOnLease?] at gone
    have closed_eq := closed_giveBack (host.pool stage.outside) client
    simp only [Call.brought, Call.held, Call.owed, zero_add, Multiset.singleton_add] at duties
    have back := duties.giveBack
    rcases given : (host.pool stage.outside).giveBack client with ⟨orphaned, pool⟩
    rw [given] at gone back closed_eq
    cases gone
    have kept := fun shut => closed_eq.trans (owes.closed shut)
    cases orphaned with
    | false =>
      simp only [Call.brought, Call.held, Call.owed, zero_add]
      exact owes.withPool registers back kept
    | true =>
      simp only [Call.brought, Call.held, Call.owed, zero_add, Multiset.singleton_add]
      exact owes.withPool registers back kept
  | leaving client orphaned =>
    cases gone
    cases orphaned <;> exact owes.withPool registers duties.returnSlot owes.closed
  | closing client =>
    cases gone
    simp only [Call.brought, Call.held, Call.owed, zero_add, Multiset.singleton_add] at owes ⊢
    exact owes.closeClient registers
  | failing cause =>
    cases gone
    exact owes.withPool registers duties.returnSlot owes.closed
  | ended outcome => cases gone

/-- **What a closing does next keeps the duties.** -/
theorem Owes.goOnClosing? (registers : host.Registers register) {old new : ClosingState κ}
    (owes : host.Owes register ((Call.close old).brought + brought) ((Call.close old).held + held)
      ((Call.close old).owed + owed) ((Call.close old).hasShut || hasShut) stage.outside)
    (gone : host.goOnClosing? old stage = some (new, after)) :
    host.Owes register ((Call.close new).brought + brought) ((Call.close new).held + held)
      ((Call.close new).owed + owed) ((Call.close new).hasShut || hasShut) after.outside := by
  have duties := owes.duties
  match old with
  | .begun =>
    cases gone
    simp only [Call.brought, Call.held, Call.owed, zero_add] at duties ⊢
    exact owes.withPool registers duties.shut fun _ => rfl
  | .closing count [] =>
    cases gone
    exact owes
  | .closing count (client :: left) =>
    cases gone
    simp only [Call.brought, Call.held, Call.owed, zero_add, ← Multiset.cons_coe,
      Multiset.cons_add] at owes ⊢
    exact owes.closeClient registers
  | .ended => cases gone

/-- What a call does next keeps the duties. -/
theorem Owes.goOn? (registers : host.Registers register) {old new : Call κ}
    (owes : host.Owes register (old.brought + brought) (old.held + held) (old.owed + owed)
      (old.hasShut || hasShut) stage.outside)
    (gone : host.goOn? old stage = some (new, after)) :
    host.Owes register (new.brought + brought) (new.held + held) (new.owed + owed)
      (new.hasShut || hasShut) after.outside := by
  cases old with
  | lease state =>
    obtain ⟨⟨next, rest⟩, ran, same⟩ := Option.map_eq_some_iff.mp gone
    cases same
    exact owes.goOnLease? registers ran
  | close state =>
    obtain ⟨⟨next, rest⟩, ran, same⟩ := Option.map_eq_some_iff.mp gone
    cases same
    exact owes.goOnClosing? registers ran

/-- A lease that gives up owes nothing. -/
theorem Owes.giveUp? {old new : Call κ}
    (owes : host.Owes register (old.brought + brought) (old.held + held) (old.owed + owed)
      (old.hasShut || hasShut) stage.outside)
    (gone : host.giveUp? old stage = some (new, after)) :
    host.Owes register (new.brought + brought) (new.held + held) (new.owed + owed)
      (new.hasShut || hasShut) after.outside := by
  unfold Host.giveUp? at gone
  split at gone
  · split at gone
    · cases gone
      exact owes
    · contradiction
  · contradiction

/-- A lease gets to hold a client that was idle, or one that it brings. -/
theorem goOnLease?_holding {old : LeaseState κ} {client : κ}
    (gone : host.goOnLease? old stage = some (.holding client, after)) :
    (old = .placed ∧ client ∈ (host.pool stage.outside).idle) ∨ old = .bringing client := by
  cases old with
  | begun =>
    simp only [Host.goOnLease?] at gone
    split at gone <;> cases gone
  | admitted =>
    obtain ⟨pool, _, same⟩ := Option.map_eq_some_iff.mp gone
    cases same
  | placed =>
    simp only [Host.goOnLease?] at gone
    split at gone
    · rename_i found
      cases gone
      exact .inl ⟨rfl, mem_idle_of_takeIdle? found⟩
    · cases gone
  | lacking =>
    simp only [Host.goOnLease?, bring] at gone
    split at gone <;> cases gone
  | bringing brought =>
    cases gone
    exact .inr rfl
  | holding held => cases gone
  | leaving left orphaned => cases orphaned <;> cases gone
  | closing closed => cases gone
  | failing cause => cases gone
  | ended outcome => cases gone

/-- A client that a lease gets to hold has not been closed. -/
theorem Owes.closings_of_taken {old : Call κ} {client : κ}
    (owes : host.Owes register (old.brought + brought) (old.held + held) (old.owed + owed)
      hasShut stage.outside)
    (gone : host.goOn? old stage = some (.lease (.holding client), after)) :
    register.closings stage.outside client = 0 := by
  cases old with
  | lease state =>
    obtain ⟨⟨next, rest⟩, ran, same⟩ := Option.map_eq_some_iff.mp gone
    cases same
    rcases goOnLease?_holding ran with ⟨rfl, idle⟩ | rfl
    · exact owes.duties.closings_of_mem_idle idle
    · exact owes.duties.closings_of_brought
  | close state =>
    obtain ⟨_, _, same⟩ := Option.map_eq_some_iff.mp gone
    cases same

/-- What all calls owe together. -/
def InOrder (host : Host σ κ) (register : Register σ κ) (traffic : Traffic σ κ) : Prop :=
  host.Owes register (Call.tally Call.brought traffic.calls) (Call.tally Call.held traffic.calls)
    (Call.tally Call.owed traffic.calls) (traffic.calls.any Call.hasShut) traffic.stage.outside

/-- What all calls owe is what one of them owes and what the others owe. -/
theorem inOrder_of_perm {calls others : List (Call κ)} {call : Call κ}
    (same : calls.Perm (call :: others)) :
    host.InOrder register { stage, calls } ↔
      host.Owes register (call.brought + Call.tally Call.brought others)
        (call.held + Call.tally Call.held others) (call.owed + Call.tally Call.owed others)
        (call.hasShut || others.any Call.hasShut) stage.outside := by
  unfold InOrder
  simp only [Call.tally_of_perm same, same.any_eq, List.any_cons]

variable {traffic next : Traffic σ κ}

/-- What becomes of a call, if it keeps what the call owes, keeps what all calls owe. -/
theorem InOrder.moveAt? {next? : Call κ → Stage σ → Option (Call κ × Stage σ)} {place : Nat}
    (keeps : ∀ {old new : Call κ} {stage after : Stage σ} {brought held owed : Multiset κ}
      {hasShut : Bool}, host.Owes register (old.brought + brought) (old.held + held)
        (old.owed + owed) (old.hasShut || hasShut) stage.outside →
      next? old stage = some (new, after) →
      host.Owes register (new.brought + brought) (new.held + held) (new.owed + owed)
        (new.hasShut || hasShut) after.outside)
    (order : host.InOrder register traffic)
    (moved : Host.moveAt? place next? traffic = some next) : host.InOrder register next := by
  unfold Host.moveAt? at moved
  split at moved
  · rename_i old found
    obtain ⟨⟨new, after⟩, ran, rfl⟩ := Option.map_eq_some_iff.mp moved
    obtain ⟨inside, rfl⟩ := List.getElem?_eq_some_iff.mp found
    rw [inOrder_of_perm (List.set_perm_cons_eraseIdx inside new)]
    exact keeps ((inOrder_of_perm (List.getElem_cons_eraseIdx_perm inside).symm).mp order) ran
  · contradiction

/-- A call that begins owes nothing. -/
theorem InOrder.append (order : host.InOrder register traffic) {call : Call κ}
    (unbrought : call.brought = 0) (unheld : call.held = 0) (unowed : call.owed = 0)
    (unshut : call.hasShut = false) :
    host.InOrder register { traffic with calls := traffic.calls ++ [call] } := by
  rw [inOrder_of_perm (List.perm_append_singleton call traffic.calls), unbrought, unheld, unowed,
    unshut]
  simp only [zero_add, Bool.false_or]
  exact order

/-- **A move keeps the duties.** -/
theorem InOrder.move? (registers : host.Registers register)
    (order : host.InOrder register traffic) {move : Move}
    (moved : host.move? move traffic = some next) : host.InOrder register next := by
  cases move with
  | lease =>
    cases moved
    exact order.append rfl rfl rfl rfl
  | close =>
    cases moved
    exact order.append rfl rfl rfl rfl
  | go place => exact order.moveAt? (fun owes ran => owes.goOn? registers ran) moved
  | giveUp place => exact order.moveAt? (fun owes ran => owes.giveUp? ran) moved

/-- **Moves keep the duties.** -/
theorem InOrder.play? (registers : host.Registers register) {moves : List Move}
    (order : host.InOrder register traffic) (played : host.play? moves traffic = some next) :
    host.InOrder register next := by
  induction moves generalizing traffic with
  | nil =>
    cases played
    exact order
  | cons move others ih =>
    obtain ⟨between, moved, rest⟩ := Option.bind_eq_some_iff.mp played
    exact ih (order.move? registers moved) rest

/-- A client that a lease gets to hold by going on has not been closed. -/
theorem InOrder.closings_of_taken (order : host.InOrder register traffic) {place : Nat}
    {client : κ} (moved : host.move? (.go place) traffic = some next)
    (taken : next.calls[place]? = some (.lease (.holding client))) :
    register.closings traffic.stage.outside client = 0 := by
  simp only [Host.move?, Host.moveAt?] at moved
  split at moved
  · rename_i old found
    obtain ⟨⟨new, after⟩, ran, rfl⟩ := Option.map_eq_some_iff.mp moved
    obtain ⟨inside, rfl⟩ := List.getElem?_eq_some_iff.mp found
    have owes := (inOrder_of_perm (List.getElem_cons_eraseIdx_perm inside).symm).mp order
    rw [List.getElem?_set_self inside] at taken
    cases taken
    exact owes.closings_of_taken ran
  · contradiction

/-- When all calls are over and the pool has been shut, every client has been closed once. -/
theorem InOrder.closings_eq_one (order : host.InOrder register traffic)
    (closed : .close .ended ∈ traffic.calls) (ended : ∀ call ∈ traffic.calls, call.isOver = true)
    {client : κ} (member : client ∈ register.made traffic.stage.outside) :
    register.closings traffic.stage.outside client = 1 := by
  have duties := order.duties
  rw [Call.tally_eq_zero fun call known => (Call.free_of_isOver (ended call known)).1,
    Call.tally_eq_zero fun call known => (Call.free_of_isOver (ended call known)).2.1,
    Call.tally_eq_zero fun call known => (Call.free_of_isOver (ended call known)).2.2] at duties
  refine duties.closings_eq_one (order.closed ?_) member
  exact List.any_eq_true.mpr ⟨_, closed, rfl⟩

end Host

/-- **Clients are closed once.** Begin with a new pool, and let leases and closings interleave as
they may, whether or not clients fail to close. Then no client is closed twice, and no lease gets to
hold a client that has been closed, be it an idle one or a new one. Once the pool has been closed and
everything is over, each client that was ever made has been closed. -/
theorem clients_closed_once (registers : host.Registers register) {stage : Stage σ} {size : Nat}
    (fresh : register.Reads host (ofSize size) [] (fun _ => 0) stage.outside) {moves : List Move}
    {traffic : Traffic σ κ} (played : host.play? moves { stage } = some traffic) :
    (∀ client, register.closings traffic.stage.outside client ≤ 1) ∧
      (∀ place client next, host.move? (.go place) traffic = some next →
        next.calls[place]? = some (.lease (.holding client)) →
          register.closings traffic.stage.outside client = 0) ∧
      (.close .ended ∈ traffic.calls → (∀ call ∈ traffic.calls, call.isOver = true) →
        ∀ client ∈ register.made traffic.stage.outside,
          register.closings traffic.stage.outside client = 1) := by
  have opening : host.InOrder register { stage } := .of_reads fresh (.ofSize size) nofun
  have order := opening.play? registers played
  exact ⟨order.duties.closings_le_one, fun _ _ _ => order.closings_of_taken,
    fun closed ended _ => order.closings_eq_one closed ended⟩

/-- Two leases from a pool that is closed twice: the first client is made after the pool has been
closed and is closed by the lease that gives it back, and the second one is at work when the pool is
closed again. -/
def crossing : List Move :=
  [.lease, .lease, .go 0, .go 1, .close, .go 0, .go 2, .go 1, .go 0, .go 1, .go 2, .go 0, .go 0,
    .go 0, .go 0, .go 0, .go 1, .go 1, .close, .go 3, .go 3, .go 1, .go 3, .go 1]

/-- The pool of a site with two slots, whose clients fail to close. -/
def crossingSite : Site :=
  { pool := .ofSize 2,
    factory := { closeFault := some (.invalidValue "The client does not close") } }

def crossingHost : Host Site String :=
  Site.host { client := Site.client "Client", patience := .null }

/-- What the moves of `crossing` end in. -/
def crossed : Traffic Site String :=
  (crossingHost.play? crossing { stage := { outside := crossingSite } }).get (by decide +kernel)

/-- Both clients are closed once, though they fail to close. -/
theorem crossing_closes_once :
    crossingHost.play? crossing { stage := { outside := crossingSite } } = some crossed ∧
      Site.register.made crossed.stage.outside = ["c0", "c1"] ∧
      ∀ client ∈ Site.register.made crossed.stage.outside,
        Site.register.closings crossed.stage.outside client = 1 := by
  have played : crossingHost.play? crossing { stage := { outside := crossingSite } } =
      some crossed := (Option.some_get _).symm
  have registers : crossingHost.Registers Site.register := Site.registers _
  have fresh : Site.register.Reads crossingHost (ofSize 2) [] (fun _ => 0)
      ({ outside := crossingSite } : Stage Site).outside :=
    ⟨⟨⟨rfl, rfl⟩, List.not_mem_nil⟩, rfl, rfl, rfl⟩
  obtain ⟨_, _, once⟩ := clients_closed_once registers fresh played
  refine ⟨played, by decide +kernel, once ?_ (by decide +kernel)⟩
  exact List.mem_of_getElem? (i := 2) rfl

end CatalogDelta.Pool
