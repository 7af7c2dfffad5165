import CatalogDelta.Proofs.Pool.Traffic
import Mathlib.Algebra.GroupWithZero.Nat

/-!
# Pools over one client

A pool may hand out one client to everybody. While it is open nobody closes the client. A lease that
has found the pool open when it is shut, and has yet to get its client, enters the client again, so
that the client may be closed once more for each such lease. Main statement:
`shared_client_closings`.
-/

namespace CatalogDelta.Pool

open Act

variable {σ κ : Type}

/-- Every making gives the one client and changes neither the pool nor what is known of clients, and
each closing of a client is counted. -/
structure Host.Shares [DecidableEq κ] (host : Host σ κ) (register : Register σ κ) (client : κ) :
    Prop where
  setPool : ∀ {pool made closings outside} (other : Pool κ),
    register.Reads host pool made closings outside →
      register.Reads host other made closings (host.setPool other outside)
  make : ∀ {pool made closings} {stage : Stage σ},
    register.Reads host pool made closings stage.outside →
      (runOn host.make stage).1 = .ok client ∧
        register.Reads host pool made closings (runOn host.make stage).2.outside
  close : ∀ {pool made closings} {stage : Stage σ} (closed : κ),
    register.Reads host pool made closings stage.outside →
      register.Reads host pool made (fun other => closings other + if other = closed then 1 else 0)
        (runOn (host.client closed).close stage).2.outside

namespace Call

/-- A lease has found the pool open and has yet to get its client. -/
def entering : Call κ → Nat
  | .lease .admitted | .lease .placed | .lease .lacking | .lease (.bringing _) => 1
  | _ => 0

/-- How often a call may still have the client closed. -/
def weight (call : Call κ) : Nat := call.owed.card + call.entering

/-- A call owes no closing and brings no other client. -/
structure IsQuiet (client : κ) (call : Call κ) : Prop where
  owed_eq_zero : call.owed = 0
  brings : ∀ other ∈ call.brought, other = client

theorem IsQuiet.of_free {client : κ} {call : Call κ} (unowed : call.owed = 0)
    (unbrought : call.brought = 0) : call.IsQuiet client := by
  refine ⟨unowed, fun other member => ?_⟩
  rw [unbrought] at member
  exact absurd member (Multiset.notMem_zero other)

/-- How many leases have found the pool open and have yet to get their clients. -/
def allEntering (calls : List (Call κ)) : Nat := (calls.map entering).sum

def allWeight (calls : List (Call κ)) : Nat := (calls.map weight).sum

theorem allWeight_of_perm {calls others : List (Call κ)} {call : Call κ}
    (same : calls.Perm (call :: others)) : allWeight calls = call.weight + allWeight others := by
  unfold allWeight
  rw [(same.map weight).sum_eq, List.map_cons, List.sum_cons]

theorem allEntering_of_perm {calls others : List (Call κ)} {call : Call κ}
    (same : calls.Perm (call :: others)) :
    allEntering calls = call.entering + allEntering others := by
  unfold allEntering
  rw [(same.map entering).sum_eq, List.map_cons, List.sum_cons]

end Call

section Steps

variable [DecidableEq κ]

/-- Entering a client adds one at most to the clients that have to be closed. -/
theorem length_created_enter (pool : Pool κ) (client : κ) :
    (pool.enter client).created.length ≤ pool.created.length + 1 := by
  unfold enter
  dsimp only
  split
  · exact Nat.le_succ _
  · exact (List.length_append).le

/-- A closed pool drops the clients that have to be closed by who gives one of them back. -/
theorem length_created_giveBack {pool : Pool κ} (closed : pool.closed = true) (client : κ) :
    (pool.giveBack client).2.created.length + (if (pool.giveBack client).1 then 1 else 0) ≤
        pool.created.length ∧
      (pool.giveBack client).2.idle = pool.idle := by
  unfold giveBack
  simp only [closed, Bool.not_true, Bool.false_eq_true, ↓reduceIte]
  split
  · rename_i known
    have member : client ∈ pool.created := List.contains_iff_mem.mp known
    have dropped : ¬decide (client ≠ client) = true := by simp
    exact ⟨List.length_filter_lt_length_iff_exists.mpr ⟨client, member, dropped⟩, rfl⟩
  · exact ⟨Nat.le_refl _, rfl⟩

end Steps

namespace Host

variable {host : Host σ κ} {register : Register σ κ} {client : κ} {stage after : Stage σ}
  {spent : Nat}

/-- The pool has been shut, and so much has been spent: the closings of the client, and the entries
for clients that have yet to be closed. -/
structure IsShut (host : Host σ κ) (register : Register σ κ) (client : κ) (spent : Nat)
    (outside : σ) : Prop where
  valid : register.valid outside
  closed : (host.pool outside).closed = true
  idle_eq_nil : (host.pool outside).idle = []
  spent_eq : register.closings outside client + (host.pool outside).created.length = spent

theorem IsShut.of_reads {pool : Pool κ} {made : List κ} {closings : κ → Nat} {outside : σ}
    (reads : register.Reads host pool made closings outside) (closed : pool.closed = true)
    (none : pool.idle = []) :
    host.IsShut register client (closings client + pool.created.length) outside := by
  obtain ⟨valid, rfl, rfl, rfl⟩ := reads
  exact ⟨valid, closed, none, rfl⟩

theorem IsShut.reads {outside : σ} (shut : host.IsShut register client spent outside) :
    register.Reads host (host.pool outside) (register.made outside) (register.closings outside)
      outside := ⟨shut.valid, rfl, rfl, rfl⟩

variable [DecidableEq κ]

/-- What closing a client costs has been owed before. -/
theorem IsShut.closeClient (shares : host.Shares register client)
    (shut : host.IsShut register client spent stage.outside) (closed : κ) :
    ∃ later, host.IsShut register client later
      (runOn (host.closeClient closed) stage).2.outside ∧ later ≤ spent + 1 := by
  rw [(closeClient_run host closed stage).2]
  refine ⟨_, .of_reads (shares.close closed shut.reads) shut.closed shut.idle_eq_nil, ?_⟩
  rw [← shut.spent_eq]
  split <;> omega

/-- **What a lease does next, once the pool has been shut, spends no more than it might.** -/
theorem IsShut.goOnLease? (shares : host.Shares register client) {old new : LeaseState κ}
    (shut : host.IsShut register client spent stage.outside)
    (gone : host.goOnLease? old stage = some (new, after)) :
    ∃ later, host.IsShut register client later after.outside ∧
      later + (Call.lease new).weight ≤ spent + (Call.lease old).weight ∧
        (Call.lease new).entering ≤ (Call.lease old).entering := by
  have setPool (other : Pool κ) (closed : other.closed = true) (none : other.idle = []) :
      host.IsShut register client (register.closings stage.outside client + other.created.length)
        (host.withPool other stage).outside :=
    .of_reads (shares.setPool other shut.reads) closed none
  have spent_eq := shut.spent_eq
  cases old with
  | begun =>
    simp only [Host.goOnLease?, shut.closed, ↓reduceIte] at gone
    cases gone
    exact ⟨spent, shut, Nat.le_refl _, Nat.le_refl _⟩
  | admitted =>
    obtain ⟨pool, slot, same⟩ := Option.map_eq_some_iff.mp gone
    cases same
    unfold Pool.takeSlot? at slot
    split at slot
    · contradiction
    · cases slot
      exact ⟨_, setPool _ shut.closed shut.idle_eq_nil, spent_eq ▸ Nat.le_refl _, Nat.le_refl _⟩
  | placed =>
    simp only [Host.goOnLease?, takeIdle?_eq_none_iff.mpr shut.idle_eq_nil] at gone
    cases gone
    exact ⟨spent, shut, Nat.le_refl _, Nat.le_refl _⟩
  | lacking =>
    obtain ⟨made, reads⟩ := shares.make shut.reads
    simp only [Host.goOnLease?, bring, Option.some.injEq] at gone
    rcases ran : runOn host.make stage with ⟨answer, rest⟩
    rw [ran] at gone made reads
    obtain rfl : answer = .ok client := made
    cases gone
    exact ⟨_, .of_reads reads shut.closed shut.idle_eq_nil, spent_eq ▸ Nat.le_refl _,
      Nat.le_refl _⟩
  | bringing brought =>
    cases gone
    refine ⟨_, setPool ((host.pool stage.outside).enter brought) shut.closed shut.idle_eq_nil, ?_,
      Nat.zero_le _⟩
    have entered := length_created_enter (host.pool stage.outside) brought
    simp only [Call.weight, Call.owed, Call.entering, Multiset.card_zero]
    omega
  | holding held =>
    simp only [Host.goOnLease?] at gone
    obtain ⟨fewer, idle_eq⟩ := length_created_giveBack shut.closed held
    have closed_eq := closed_giveBack (host.pool stage.outside) held
    rcases given : (host.pool stage.outside).giveBack held with ⟨orphaned, pool⟩
    rw [given] at gone fewer idle_eq closed_eq
    cases gone
    refine ⟨_, setPool pool (closed_eq.trans shut.closed) (idle_eq.trans shut.idle_eq_nil), ?_,
      Nat.le_refl _⟩
    cases orphaned with
    | false =>
      simp only [Call.weight, Call.owed, Call.entering, Multiset.card_zero, Bool.false_eq_true,
        ↓reduceIte] at fewer ⊢
      omega
    | true =>
      simp only [Call.weight, Call.owed, Call.entering, Multiset.card_zero,
        Multiset.card_singleton, ↓reduceIte] at fewer ⊢
      omega
  | leaving left orphaned =>
    cases gone
    refine ⟨_, setPool _ shut.closed shut.idle_eq_nil, ?_, ?_⟩
    · cases orphaned <;> exact spent_eq ▸ Nat.le_refl _
    · cases orphaned <;> exact Nat.le_refl _
  | closing closed =>
    cases gone
    obtain ⟨later, still, more⟩ := shut.closeClient shares closed
    refine ⟨later, still, ?_, Nat.le_refl _⟩
    simp only [Call.weight, Call.owed, Call.entering, Multiset.card_zero, Multiset.card_singleton]
    omega
  | failing cause =>
    cases gone
    exact ⟨_, setPool _ shut.closed shut.idle_eq_nil, spent_eq ▸ Nat.le_refl _, Nat.le_refl _⟩
  | ended outcome => cases gone

theorem IsShut.goOnClosing? (shares : host.Shares register client) {old new : ClosingState κ}
    (shut : host.IsShut register client spent stage.outside)
    (gone : host.goOnClosing? old stage = some (new, after)) :
    ∃ later, host.IsShut register client later after.outside ∧
      later + (Call.close new).weight ≤ spent + (Call.close old).weight ∧
        (Call.close new).entering ≤ (Call.close old).entering := by
  match old with
  | .begun =>
    cases gone
    refine ⟨_, .of_reads (shares.setPool _ shut.reads) rfl rfl, ?_, Nat.le_refl _⟩
    rw [← shut.spent_eq]
    simp only [Call.weight, Call.owed, Call.entering, Multiset.card_zero, Multiset.coe_card,
      List.length_nil]
    exact Nat.le_refl _
  | .closing count [] =>
    cases gone
    exact ⟨spent, shut, Nat.le_refl _, Nat.le_refl _⟩
  | .closing count (closed :: left) =>
    cases gone
    obtain ⟨later, still, more⟩ := shut.closeClient shares closed
    refine ⟨later, still, ?_, Nat.le_refl _⟩
    simp only [Call.weight, Call.owed, Call.entering, Multiset.coe_card, List.length_cons]
    omega
  | .ended => cases gone

theorem IsShut.goOn? (shares : host.Shares register client) {old new : Call κ}
    (shut : host.IsShut register client spent stage.outside)
    (gone : host.goOn? old stage = some (new, after)) :
    ∃ later, host.IsShut register client later after.outside ∧
      later + new.weight ≤ spent + old.weight ∧ new.entering ≤ old.entering := by
  cases old with
  | lease state =>
    obtain ⟨⟨next, rest⟩, ran, same⟩ := Option.map_eq_some_iff.mp gone
    cases same
    exact shut.goOnLease? shares ran
  | close state =>
    obtain ⟨⟨next, rest⟩, ran, same⟩ := Option.map_eq_some_iff.mp gone
    cases same
    exact shut.goOnClosing? shares ran

omit [DecidableEq κ] in
/-- A lease that gives up spends nothing. -/
theorem giveUp?_eq_some {old new : Call κ} (gone : host.giveUp? old stage = some (new, after)) :
    old = .lease .admitted ∧ after = stage ∧ ∃ fault, new = .lease (.ended (.error fault)) := by
  unfold Host.giveUp? at gone
  split at gone
  · split at gone
    · cases gone
      exact ⟨rfl, rfl, _, rfl⟩
    · contradiction
  · contradiction

/-- Once the pool has been shut, the calls spend no more than a bound, and no more leases than a
number have yet to get their clients. -/
def Wanes (host : Host σ κ) (register : Register σ κ) (client : κ) (bound entering : Nat)
    (traffic : Traffic σ κ) : Prop :=
  ∃ spent, host.IsShut register client spent traffic.stage.outside ∧
    spent + Call.allWeight traffic.calls ≤ bound ∧ Call.allEntering traffic.calls ≤ entering

variable {bound entering : Nat} {traffic next : Traffic σ κ}

omit [DecidableEq κ] in
theorem Wanes.moveAt? {next? : Call κ → Stage σ → Option (Call κ × Stage σ)} {place : Nat}
    (keeps : ∀ {old new : Call κ} {stage after : Stage σ} {spent : Nat},
      host.IsShut register client spent stage.outside → next? old stage = some (new, after) →
        ∃ later, host.IsShut register client later after.outside ∧
          later + new.weight ≤ spent + old.weight ∧ new.entering ≤ old.entering)
    (wanes : host.Wanes register client bound entering traffic)
    (moved : Host.moveAt? place next? traffic = some next) :
    host.Wanes register client bound entering next := by
  unfold Host.moveAt? at moved
  split at moved
  · rename_i old found
    obtain ⟨⟨new, after⟩, ran, rfl⟩ := Option.map_eq_some_iff.mp moved
    obtain ⟨inside, rfl⟩ := List.getElem?_eq_some_iff.mp found
    obtain ⟨spent, shut, within, few⟩ := wanes
    obtain ⟨later, still, less, fewer⟩ := keeps shut ran
    have before := (List.getElem_cons_eraseIdx_perm inside).symm
    have behind := List.set_perm_cons_eraseIdx inside new
    rw [Call.allWeight_of_perm before] at within
    rw [Call.allEntering_of_perm before] at few
    refine ⟨later, still, ?_, ?_⟩
    · rw [Call.allWeight_of_perm behind]
      omega
    · rw [Call.allEntering_of_perm behind]
      omega
  · contradiction

omit [DecidableEq κ] in
theorem Wanes.append (wanes : host.Wanes register client bound entering traffic) {call : Call κ}
    (weightless : call.weight = 0) (outside : call.entering = 0) :
    host.Wanes register client bound entering
      { traffic with calls := traffic.calls ++ [call] } := by
  obtain ⟨spent, shut, within, few⟩ := wanes
  have same := List.perm_append_singleton call traffic.calls
  refine ⟨spent, shut, ?_, ?_⟩
  · rw [Call.allWeight_of_perm same, weightless, Nat.zero_add]
    exact within
  · rw [Call.allEntering_of_perm same, outside, Nat.zero_add]
    exact few

/-- **No move spends more** once the pool has been shut. -/
theorem Wanes.move? (shares : host.Shares register client)
    (wanes : host.Wanes register client bound entering traffic) {move : Move}
    (moved : host.move? move traffic = some next) :
    host.Wanes register client bound entering next := by
  cases move with
  | lease =>
    cases moved
    exact wanes.append rfl rfl
  | close =>
    cases moved
    exact wanes.append rfl rfl
  | go place => exact wanes.moveAt? (fun shut ran => shut.goOn? shares ran) moved
  | giveUp place =>
    refine wanes.moveAt? (fun {old new stage after spent} shut ran => ?_) moved
    obtain ⟨rfl, rfl, fault, rfl⟩ := giveUp?_eq_some ran
    exact ⟨spent, shut, Nat.le_succ _, Nat.zero_le _⟩

theorem Wanes.play? (shares : host.Shares register client) {moves : List Move}
    (wanes : host.Wanes register client bound entering traffic)
    (played : host.play? moves traffic = some next) :
    host.Wanes register client bound entering next := by
  induction moves generalizing traffic with
  | nil =>
    cases played
    exact wanes
  | cons move others ih =>
    obtain ⟨between, moved, rest⟩ := Option.bind_eq_some_iff.mp played
    exact ih (wanes.move? shares moved) rest

/-- The pool is open, nobody has closed the client, and no other one is entered. -/
structure IsFresh (host : Host σ κ) (register : Register σ κ) (client : κ) (outside : σ) :
    Prop where
  valid : register.valid outside
  isOpen : (host.pool outside).closed = false
  unclosed : register.closings outside client = 0
  entered : (host.pool outside).created = [] ∨ (host.pool outside).created = [client]

omit [DecidableEq κ] in
theorem IsFresh.of_reads {pool : Pool κ} {made : List κ} {closings : κ → Nat} {outside : σ}
    (reads : register.Reads host pool made closings outside) (isOpen : pool.closed = false)
    (unclosed : closings client = 0) (entered : pool.created = [] ∨ pool.created = [client]) :
    host.IsFresh register client outside := by
  obtain ⟨valid, rfl, rfl, rfl⟩ := reads
  exact ⟨valid, isOpen, unclosed, entered⟩

omit [DecidableEq κ] in
theorem IsFresh.reads {outside : σ} (fresh : host.IsFresh register client outside) :
    register.Reads host (host.pool outside) (register.made outside) (register.closings outside)
      outside := ⟨fresh.valid, rfl, rfl, rfl⟩

/-- **What a lease does next while the pool is open** closes nothing. -/
theorem IsFresh.goOnLease? (shares : host.Shares register client) {old new : LeaseState κ}
    (fresh : host.IsFresh register client stage.outside) (quiet : (Call.lease old).IsQuiet client)
    (gone : host.goOnLease? old stage = some (new, after)) :
    host.IsFresh register client after.outside ∧ (Call.lease new).IsQuiet client := by
  have setPool (other : Pool κ) (isOpen : other.closed = false)
      (entered : other.created = [] ∨ other.created = [client]) :
      host.IsFresh register client (host.withPool other stage).outside :=
    .of_reads (shares.setPool other fresh.reads) isOpen fresh.unclosed entered
  cases old with
  | begun =>
    simp only [Host.goOnLease?, fresh.isOpen, Bool.false_eq_true, ↓reduceIte] at gone
    cases gone
    exact ⟨fresh, .of_free rfl rfl⟩
  | admitted =>
    obtain ⟨pool, slot, same⟩ := Option.map_eq_some_iff.mp gone
    cases same
    unfold Pool.takeSlot? at slot
    split at slot
    · contradiction
    · cases slot
      exact ⟨setPool _ fresh.isOpen fresh.entered, .of_free rfl rfl⟩
  | placed =>
    simp only [Host.goOnLease?] at gone
    split at gone
    · rename_i taken pool found
      cases gone
      unfold Pool.takeIdle? at found
      split at found
      · contradiction
      · cases found
        exact ⟨setPool _ fresh.isOpen fresh.entered, .of_free rfl rfl⟩
    · cases gone
      exact ⟨fresh, .of_free rfl rfl⟩
  | lacking =>
    obtain ⟨made, reads⟩ := shares.make fresh.reads
    simp only [Host.goOnLease?, bring, Option.some.injEq] at gone
    rcases ran : runOn host.make stage with ⟨answer, rest⟩
    rw [ran] at gone made reads
    obtain rfl : answer = .ok client := made
    cases gone
    exact ⟨.of_reads reads fresh.isOpen fresh.unclosed fresh.entered, rfl,
      fun other member => Multiset.mem_singleton.mp member⟩
  | bringing brought =>
    obtain rfl : brought = client := quiet.brings brought (Multiset.mem_singleton_self brought)
    cases gone
    refine ⟨setPool ((host.pool stage.outside).enter brought) fresh.isOpen ?_, .of_free rfl rfl⟩
    rcases fresh.entered with none | once
    · simp [Pool.enter, none]
    · simp [Pool.enter, once]
  | holding held =>
    simp only [Host.goOnLease?, giveBack, fresh.isOpen, Bool.not_false, ↓reduceIte] at gone
    cases gone
    exact ⟨setPool _ rfl fresh.entered, .of_free rfl rfl⟩
  | leaving left orphaned =>
    cases gone
    refine ⟨setPool _ fresh.isOpen fresh.entered, ?_⟩
    cases orphaned with
    | false => exact .of_free rfl rfl
    | true => exact absurd quiet.owed_eq_zero (Multiset.singleton_ne_zero left)
  | closing closed => exact absurd quiet.owed_eq_zero (Multiset.singleton_ne_zero closed)
  | failing cause =>
    cases gone
    exact ⟨setPool _ fresh.isOpen fresh.entered, .of_free rfl rfl⟩
  | ended outcome => cases gone

/-- **What a call does next while the pool is open** closes nothing, or it shuts the pool: then the
calls after it may still have the client closed once. -/
theorem IsFresh.goOn? (shares : host.Shares register client) {old new : Call κ}
    (fresh : host.IsFresh register client stage.outside) (quiet : old.IsQuiet client)
    (gone : host.goOn? old stage = some (new, after)) :
    (host.IsFresh register client after.outside ∧ new.IsQuiet client) ∨
      host.IsShut register client 0 after.outside ∧ new.weight ≤ 1 ∧ new.entering = 0 := by
  cases old with
  | lease state =>
    obtain ⟨⟨next, rest⟩, ran, same⟩ := Option.map_eq_some_iff.mp gone
    cases same
    exact .inl (fresh.goOnLease? shares quiet ran)
  | close state =>
    obtain ⟨⟨next, rest⟩, ran, same⟩ := Option.map_eq_some_iff.mp gone
    cases same
    match state with
    | .begun =>
      cases ran
      have shut : host.IsShut register client (register.closings stage.outside client + 0)
          (host.withPool (host.pool stage.outside).shut.2 stage).outside :=
        .of_reads (shares.setPool (host.pool stage.outside).shut.2 fresh.reads) rfl rfl
      rw [fresh.unclosed] at shut
      refine .inr ⟨shut, ?_, rfl⟩
      rcases fresh.entered with none | once
      · simp [Call.weight, Call.owed, Call.entering, none]
      · simp [Call.weight, Call.owed, Call.entering, once]
    | .closing count [] =>
      cases ran
      exact .inl ⟨fresh, rfl, quiet.brings⟩
    | .closing count (closed :: left) =>
      exact absurd (Multiset.coe_eq_zero _ |>.mp quiet.owed_eq_zero) (List.cons_ne_nil closed left)
    | .ended => cases ran

/-- The pool is open, nobody has closed the client, and nobody owes it. -/
structure Untouched (host : Host σ κ) (register : Register σ κ) (client : κ)
    (traffic : Traffic σ κ) : Prop where
  fresh : host.IsFresh register client traffic.stage.outside
  quiet : ∀ call ∈ traffic.calls, call.IsQuiet client

omit [DecidableEq κ] in
/-- Quiet calls weigh no more than the leases among them that have yet to get their clients. -/
theorem allWeight_of_quiet {calls : List (Call κ)} (quiet : ∀ call ∈ calls, call.IsQuiet client) :
    Call.allWeight calls = Call.allEntering calls := by
  unfold Call.allWeight Call.allEntering
  refine congrArg List.sum (List.map_congr_left fun call member => ?_)
  rw [Call.weight, (quiet call member).owed_eq_zero, Multiset.card_zero, Nat.zero_add]

/-- **A move in an open pool** closes nothing, or it shuts the pool. -/
theorem Untouched.move? (shares : host.Shares register client)
    (untouched : host.Untouched register client traffic) {move : Move}
    (moved : host.move? move traffic = some next) :
    host.Untouched register client next ∨
      host.Wanes register client (1 + Call.allEntering traffic.calls)
        (Call.allEntering traffic.calls) next := by
  obtain ⟨fresh, quiet⟩ := untouched
  have begins {call : Call κ} (new : call.IsQuiet client) :
      ∀ other ∈ traffic.calls ++ [call], other.IsQuiet client := by
    intro other member
    rcases List.mem_append.mp member with before | last
    · exact quiet other before
    · exact List.mem_singleton.mp last ▸ new
  have becomes {place : Nat} {call : Call κ} (new : call.IsQuiet client) :
      ∀ other ∈ traffic.calls.set place call, other.IsQuiet client := by
    intro other member
    rcases List.mem_or_eq_of_mem_set member with before | rfl
    · exact quiet other before
    · exact new
  cases move with
  | lease =>
    cases moved
    exact .inl ⟨fresh, begins (.of_free rfl rfl)⟩
  | close =>
    cases moved
    exact .inl ⟨fresh, begins (.of_free rfl rfl)⟩
  | go place =>
    simp only [Host.move?, Host.moveAt?] at moved
    split at moved
    · rename_i old found
      obtain ⟨⟨new, after⟩, ran, rfl⟩ := Option.map_eq_some_iff.mp moved
      obtain ⟨inside, rfl⟩ := List.getElem?_eq_some_iff.mp found
      rcases fresh.goOn? shares (quiet _ (List.getElem_mem inside)) ran with
        ⟨still, new⟩ | ⟨shut, light, outside⟩
      · exact .inl ⟨still, becomes new⟩
      · have before := (List.getElem_cons_eraseIdx_perm inside).symm
        have behind := List.set_perm_cons_eraseIdx inside new
        have others := allWeight_of_quiet fun call (member : call ∈ traffic.calls.eraseIdx place) =>
          quiet call (List.mem_of_mem_eraseIdx member)
        refine .inr ⟨0, shut, ?_, ?_⟩
        · rw [Call.allWeight_of_perm behind, others, Call.allEntering_of_perm before]
          omega
        · rw [Call.allEntering_of_perm behind, Call.allEntering_of_perm before]
          omega
    · contradiction
  | giveUp place =>
    simp only [Host.move?, Host.moveAt?] at moved
    split at moved
    · rename_i old found
      obtain ⟨⟨new, after⟩, ran, rfl⟩ := Option.map_eq_some_iff.mp moved
      obtain ⟨_, rfl, fault, rfl⟩ := giveUp?_eq_some ran
      exact .inl ⟨fresh, becomes (.of_free rfl rfl)⟩
    · contradiction

/-- In the end the pool is still open and untouched, or it has been shut. -/
theorem Untouched.play? (shares : host.Shares register client) {moves : List Move}
    (untouched : host.Untouched register client traffic)
    (played : host.play? moves traffic = some next) :
    host.Untouched register client next ∨
      ∃ bound entering, host.Wanes register client bound entering next := by
  induction moves generalizing traffic with
  | nil =>
    cases played
    exact .inl untouched
  | cons move others ih =>
    obtain ⟨between, moved, rest⟩ := Option.bind_eq_some_iff.mp played
    rcases untouched.move? shares moved with still | wanes
    · exact ih still rest
    · exact .inr ⟨_, _, wanes.play? shares rest⟩

omit [DecidableEq κ] in
theorem Wanes.closings_le (wanes : host.Wanes register client bound entering traffic) :
    register.closings traffic.stage.outside client ≤ bound := by
  obtain ⟨spent, shut, within, _⟩ := wanes
  have spent_eq := shut.spent_eq
  omega

/-- A lease that gets to hold a client has found the pool open before. -/
theorem entering_of_taken {old : Call κ} {held : κ}
    (gone : host.goOn? old stage = some (.lease (.holding held), after)) : old.entering = 1 := by
  cases old with
  | lease state =>
    obtain ⟨⟨next, rest⟩, ran, same⟩ := Option.map_eq_some_iff.mp gone
    cases same
    rcases goOnLease?_holding ran with ⟨rfl, _⟩ | rfl
    · rfl
    · rfl
  | close state =>
    obtain ⟨_, _, same⟩ := Option.map_eq_some_iff.mp gone
    cases same

/-- When no lease has yet to get its client, none gets to hold one by going on. -/
theorem not_taken {place : Nat} {held : κ} (nobody : Call.allEntering traffic.calls = 0)
    (moved : host.move? (.go place) traffic = some next) :
    next.calls[place]? ≠ some (.lease (.holding held)) := by
  intro taken
  simp only [Host.move?, Host.moveAt?] at moved
  split at moved
  · rename_i old found
    obtain ⟨⟨new, after⟩, ran, rfl⟩ := Option.map_eq_some_iff.mp moved
    obtain ⟨inside, rfl⟩ := List.getElem?_eq_some_iff.mp found
    rw [List.getElem?_set_self inside] at taken
    cases taken
    rw [Call.allEntering_of_perm (List.getElem_cons_eraseIdx_perm inside).symm,
      entering_of_taken ran] at nobody
    omega
  · contradiction

end Host

/-- **A shared client is closed once for all, and once more for each lease in between.** Begin with
a new pool over one client, and let leases and closings interleave as they may. While the pool is
open the client has not been closed. Once a closing has shut it, the client is closed at most once,
and once more for each lease that had found the pool open by then and had yet to get the client. If
there is no such lease, no lease gets to hold the client any more. -/
theorem shared_client_closings [DecidableEq κ] {host : Host σ κ} {register : Register σ κ}
    {client : κ} (shares : host.Shares register client) {stage : Stage σ} {size : Nat}
    {made : List κ} {closings : κ → Nat} (unclosed : closings client = 0)
    (reads : register.Reads host (ofSize size) made closings stage.outside) {moves : List Move}
    {opened : Traffic σ κ} (played : host.play? moves { stage } = some opened)
    (isOpen : (host.pool opened.stage.outside).closed = false) :
    register.closings opened.stage.outside client = 0 ∧
      ∀ place shut others last, host.move? (.go place) opened = some shut →
        (host.pool shut.stage.outside).closed = true → host.play? others shut = some last →
          register.closings last.stage.outside client ≤ 1 + Call.allEntering opened.calls ∧
            (Call.allEntering opened.calls = 0 → ∀ later next held,
              host.move? (.go later) last = some next →
                next.calls[later]? ≠ some (.lease (.holding held))) := by
  have opening : host.Untouched register client { stage } :=
    ⟨.of_reads reads rfl unclosed (.inl rfl), fun _ member => absurd member List.not_mem_nil⟩
  have untouched : host.Untouched register client opened := by
    rcases opening.play? shares played with still | ⟨_, _, _, shut, _⟩
    · exact still
    · exact absurd (shut.closed.symm.trans isOpen) Bool.noConfusion
  refine ⟨untouched.fresh.unclosed, fun place shut others last moved closed rest => ?_⟩
  have wanes : host.Wanes register client (1 + Call.allEntering opened.calls)
      (Call.allEntering opened.calls) shut := by
    rcases untouched.move? shares moved with still | wanes
    · exact absurd (still.fresh.isOpen.symm.trans closed) Bool.false_ne_true
    · exact wanes
  have after := wanes.play? shares rest
  refine ⟨after.closings_le, fun nobody later next held again => ?_⟩
  obtain ⟨_, _, _, few⟩ := after
  exact Host.not_taken (Nat.le_zero.mp (nobody ▸ few)) again

end CatalogDelta.Pool

namespace CatalogDelta.Site

open Act

/-- What the factory of a site tells that has one client and is not scripted. -/
def sharedRegister (client : String) : Pool.Register Site String where
  valid site := site.factory.only = some client ∧ site.factory.script = []
  made _ := [client]
  closings site := site.factory.closingsOf

theorem shares (setup : PoolSetup) (client : String) :
    (host setup).Shares (sharedRegister client) client where
  setPool _ reads := ⟨reads.valid, rfl, reads.made_eq, reads.closings_eq⟩
  make {_ _ _ stage} reads := by
    obtain ⟨⟨only_eq, script_eq⟩, pool_eq, rfl, rfl⟩ := reads
    have next : stage.outside.factory.next =
        (.client, { stage.outside.factory with asked := stage.outside.factory.asked + 1 }) := by
      simp [Factory.next, script_eq]
    have make_eq : (host setup).make = askFactory setup := rfl
    rw [make_eq]
    simp only [askFactory, makeClient, runOn_bind, runOn_view, runOn_change, runOn_pure, next,
      Factory.make, only_eq]
    exact ⟨trivial, ⟨rfl, script_eq⟩, pool_eq, rfl, rfl⟩
  close {_ _ _ stage} closed reads := by
    obtain ⟨⟨only_eq, script_eq⟩, pool_eq, rfl, rfl⟩ := reads
    have counted := factory_closeClient closed stage
    have close_eq : ((host setup).client closed).close = closeClient closed := rfl
    rw [close_eq, counted]
    exact ⟨⟨only_eq, script_eq⟩, pool_eq, rfl, Factory.closingsOf_countClosing _ _⟩

end CatalogDelta.Site

namespace CatalogDelta.Pool

/-- A pool with one slot over one client. -/
def sharedSite : Stage Site where
  outside := { pool := .ofSize 1, factory := .ofOne "shared" none }

/-- A lease finds the pool open, another one gets the client and gives it back, and a closing
begins. -/
def overtaking : List Move :=
  [.lease, .go 0, .lease, .go 1, .go 1, .go 1, .go 1, .go 1, .go 1, .go 1, .close]

/-- The closing closes the client, and the first lease goes on until it has a client to get. -/
def closingUp : List Move := [.go 2, .go 0, .go 0, .go 0]

def overtaken : Traffic Site String :=
  (crossingHost.play? overtaking { stage := sharedSite }).get (by decide +kernel)

def shutEarly : Traffic Site String :=
  (crossingHost.move? (.go 2) overtaken).get (by decide +kernel)

def closedUp : Traffic Site String :=
  (crossingHost.play? closingUp shutEarly).get (by decide +kernel)

/-- How often the client has been closed. -/
def sharedClosings (traffic : Traffic Site String) : Nat :=
  (Site.sharedRegister "shared").closings traffic.stage.outside "shared"

theorem overtaken_closings :
    Call.allEntering overtaken.calls = 1 ∧ sharedClosings overtaken = 0 ∧
      sharedClosings closedUp ≤ 2 := by
  have one : Call.allEntering overtaken.calls = 1 := by decide +kernel
  have shares : crossingHost.Shares (Site.sharedRegister "shared") "shared" := Site.shares _ _
  have reads : (Site.sharedRegister "shared").Reads crossingHost (ofSize 1) ["shared"]
      (Factory.ofOne "shared" none).closingsOf sharedSite.outside := ⟨⟨rfl, rfl⟩, rfl, rfl, rfl⟩
  have played : crossingHost.play? overtaking { stage := sharedSite } = some overtaken :=
    (Option.some_get _).symm
  have moved : crossingHost.move? (.go 2) overtaken = some shutEarly := (Option.some_get _).symm
  have rest : crossingHost.play? closingUp shutEarly = some closedUp := (Option.some_get _).symm
  obtain ⟨unclosed, after⟩ :=
    shared_client_closings shares (by decide) reads played (by decide +kernel)
  obtain ⟨bound, _⟩ := after 2 _ _ _ moved (by decide +kernel) rest
  exact ⟨one, unclosed, by rwa [one] at bound⟩

/-- All of this, up to where the first lease has the closed client to get. -/
def late : Traffic Site String :=
  (crossingHost.play? (overtaking ++ .go 2 :: closingUp) { stage := sharedSite }).get
    (by decide +kernel)

/-- The first lease gets the client. -/
def takenLate : Traffic Site String := (crossingHost.move? (.go 0) late).get (by decide +kernel)

/-- The first lease gets the client and goes on to the end. -/
def givenLate : Traffic Site String :=
  (crossingHost.play? (overtaking ++ .go 2 :: closingUp ++ [.go 0, .go 0, .go 0, .go 0])
    { stage := sharedSite }).get (by decide +kernel)

/-- **A shared client can be closed twice, and be got once it is closed**: by a lease that found the
pool open, and waited for its slot while the client was entered by another lease and closed. -/
theorem shared_client_closed_twice :
    (¬∀ moves traffic, crossingHost.play? moves { stage := sharedSite } = some traffic →
      sharedClosings traffic ≤ 1) ∧
    ¬∀ moves traffic place next, crossingHost.play? moves { stage := sharedSite } = some traffic →
      crossingHost.move? (.go place) traffic = some next →
        next.calls[place]? = some (.lease (.holding "shared")) → sharedClosings traffic = 0 := by
  constructor
  · intro once
    have atMost : sharedClosings givenLate ≤ 1 := once _ _ (Option.some_get _).symm
    exact absurd atMost (by decide +kernel)
  · intro never
    have taken : takenLate.calls[0]? = some (.lease (.holding "shared")) := rfl
    have unclosed : sharedClosings late = 0 :=
      never _ _ 0 takenLate (Option.some_get _).symm (Option.some_get _).symm taken
    exact absurd unclosed (by decide +kernel)

end CatalogDelta.Pool
