import CatalogDelta.Pool.Session
import CatalogDelta.Proofs.Pool.Books
import CatalogDelta.Proofs.Site.Factory

/-!
# Sessions keep the books of a pool

Whatever is done with the pool of a site, and whatever its factory is scripted to do, the books of
the pool stay in order: there are as many clients in use as leases are open, every other slot is
free, no client is in two hands, and a lease that fails leaves everything as it was. Main statement:
`session_keeps_accounts`.
-/

namespace CatalogDelta

open Act

namespace Site

/-- The clients are numbered, and the books of the pool are in order. -/
structure InOrder (size taken : Nat) (held : List String) (site : Site) : Prop where
  numbered : site.factory.Numbered
  books : site.pool.Books size taken site.factory.made held

/-- No client can be leased: the pool is closed, or it has no free slot, or it has no idle client
and the factory will fail to make one. -/
def Refuses (site : Site) : Prop :=
  site.pool.closed = true ∨ site.pool.free = 0 ∨
    site.pool.idle = [] ∧ ∃ fault, site.nextMaking = .fault fault

variable {size taken : Nat} {held : List String} {stage : Stage Site}
  (setup : PoolSetup)

theorem InOrder.has {site : Site} (order : site.InOrder size taken held) :
    site.Has site.pool site.factory.made :=
  ⟨rfl, rfl, order.numbered⟩

theorem Has.inOrder {site : Site} {pool : Pool String} {made : List String}
    (has : site.Has pool made) (books : pool.Books size taken made held) :
    site.InOrder size taken held := by
  obtain ⟨rfl, rfl, numbered⟩ := has
  exact ⟨numbered, books⟩

/-- A client that has been made is written down and entered. -/
theorem enter_ends {pool : Pool String} {made : List String} (client : String) :
    Ends (Has pool made)
      (do
        note Level.debug Author.catalog
          ("Created catalog client " ++ ((host setup).client client).kind)
        (host setup).put ((← view (host setup).pool).enter client)
        return client)
      fun given site => given = client ∧ site.Has (pool.enter client) made :=
  fun _ has =>
    ⟨client, rfl, rfl, congrArg (·.enter client) has.pool_eq, has.made_eq, has.numbered⟩

/-- A client is checked out, unless one has to be made and the factory fails. -/
theorem checkOut_run (order : stage.outside.InOrder size (taken + 1) held) :
    (∃ fault, stage.outside.pool.idle = [] ∧ stage.outside.nextMaking = .fault fault ∧
      (runOn (host setup).checkOut stage).1 = .error fault ∧
      (runOn (host setup).checkOut stage).2.outside.Has stage.outside.pool
        stage.outside.factory.made) ∨
    ¬(stage.outside.pool.idle = [] ∧ ∃ fault, stage.outside.nextMaking = .fault fault) ∧
      ∃ client, (runOn (host setup).checkOut stage).1 = .ok client ∧
        (runOn (host setup).checkOut stage).2.outside.InOrder size taken (held ++ [client]) := by
  unfold Pool.Host.checkOut
  rw [runOn_bind, runOn_view]
  dsimp only
  have pool_eq : (host setup).pool stage.outside = stage.outside.pool := rfl
  rw [pool_eq]
  cases found : stage.outside.pool.takeIdle? with
  | some taken =>
    obtain ⟨client, rest⟩ := taken
    have some : stage.outside.pool.idle ≠ [] := fun none => by
      rw [Pool.takeIdle?_eq_none_iff.mpr none] at found
      exact nomatch found
    exact .inr ⟨fun both => some both.1, client, rfl, order.numbered, order.books.takeIdle? found⟩
  | none =>
    have none := Pool.takeIdle?_eq_none_iff.mp found
    have make_eq : (host setup).make = askFactory setup := rfl
    rw [make_eq]
    rcases askFactory_run setup order.books.created_made order.has with
      ⟨fault, scripted, failed, has⟩ | ⟨unscripted, client, given, new, has⟩
    · rw [runOn_bind_of_error failed]
      exact .inl ⟨fault, none, scripted, rfl, has⟩
    · rw [runOn_bind_of_ok given]
      refine .inr ⟨fun both => both.2.elim unscripted, client, rfl, ?_⟩
      rcases has with has | has
      · obtain ⟨_, _, _, entered⟩ := enter_ends setup client _ has
        exact entered.inOrder (order.books.enter none new)
      · obtain ⟨_, _, _, entered⟩ := enter_ends setup client _ has
        exact entered.inOrder (order.books.shut.enter rfl new)

/-- A pool that is set is kept, with everything else of the site. -/
theorem InOrder.setPool {site : Site} (order : site.InOrder size taken held) {pool : Pool String}
    {left : Nat} {kept : List String} (books : pool.Books size left site.factory.made kept) :
    ((host setup).setPool pool site).InOrder size left kept :=
  ⟨order.numbered, books⟩

/-- A lease that has a slot gets a client, or returns the slot if none can be made. -/
theorem acquire_of_slot (order : stage.outside.InOrder size 0 held)
    (isOpen : stage.outside.pool.closed = false) {rest : Pool String}
    (slot : stage.outside.pool.takeSlot? = some rest) :
    (stage.outside.Refuses ∧ ∃ cause,
      (runOn (host setup).acquire stage).1 = .error (Pool.Host.makingFault cause) ∧
      (runOn (host setup).acquire stage).2.outside.Has stage.outside.pool
        stage.outside.factory.made) ∨
    ¬stage.outside.Refuses ∧ ∃ client, (runOn (host setup).acquire stage).1 = .ok client ∧
      (runOn (host setup).acquire stage).2.outside.InOrder size 0 (held ++ [client]) := by
  have back := Pool.returnSlot_of_takeSlot? slot
  have idle_eq : rest.idle = stage.outside.pool.idle := by
    rw [← back]
    rfl
  have some : ¬stage.outside.pool.free = 0 := fun none => by
    rw [Pool.takeSlot?_eq_none_iff.mpr none] at slot
    exact nomatch slot
  have taken : ({ stage with outside := (host setup).setPool rest stage.outside } :
      Stage Site).outside.InOrder size 1 held :=
    order.setPool setup (order.books.takeSlot? slot)
  have pool_eq : (host setup).pool stage.outside = stage.outside.pool := rfl
  unfold Pool.Host.acquire
  simp only [runOn_bind, runOn_view, pool_eq, isOpen, slot, Pool.Host.put, runOn_change,
    runOn_attempt, Bool.false_eq_true, ↓reduceIte]
  rcases checkOut_run setup taken with
    ⟨fault, none, scripted, failed, has⟩ | ⟨able, client, given, kept⟩
  · refine .inl ⟨.inr (.inr ⟨idle_eq ▸ none, fault, scripted⟩), fault, ?_⟩
    simp only [failed, runOn_bind, runOn_view, runOn_change, runOn_throw, true_and]
    exact ⟨(congrArg Pool.returnSlot has.pool_eq).trans back, has.made_eq, has.numbered⟩
  · refine .inr ⟨?_, client, ?_⟩
    · rintro (shut | none | ⟨idle, scripted⟩)
      · exact nomatch isOpen.symm.trans shut
      · exact some none
      · exact able ⟨idle_eq.trans idle, scripted⟩
    · simp only [given, runOn_pure, kept, and_self]

/-- What comes of a lease: it is refused, and everything is as it was, or a client is held. -/
theorem acquire_run (order : stage.outside.InOrder size 0 held) :
    (stage.outside.Refuses ∧ ∃ fault, (runOn (host setup).acquire stage).1 = .error fault ∧
      fault.kind = .connectionFailure ∧
      (runOn (host setup).acquire stage).2.outside.Has stage.outside.pool
        stage.outside.factory.made) ∨
    ¬stage.outside.Refuses ∧ ∃ client, (runOn (host setup).acquire stage).1 = .ok client ∧
      (runOn (host setup).acquire stage).2.outside.InOrder size 0 (held ++ [client]) := by
  have pool_eq : (host setup).pool stage.outside = stage.outside.pool := rfl
  cases closed : stage.outside.pool.closed with
  | true =>
    have acquired : runOn (host setup).acquire stage = (.error Pool.Host.closedFault, stage) := by
      simp only [Pool.Host.acquire, runOn_bind, runOn_view, pool_eq, closed, ↓reduceIte,
        runOn_throw]
    rw [acquired]
    exact .inl ⟨.inl closed, _, rfl, Fault.kind_connectionFailure _ _ _, order.has⟩
  | false =>
    cases slot : stage.outside.pool.takeSlot? with
    | none =>
      have acquired : runOn (host setup).acquire stage =
          (.error ((host setup).timeoutFault stage.outside.pool), stage) := by
        simp only [Pool.Host.acquire, runOn_bind, runOn_view, pool_eq, closed, slot, runOn_throw,
          Bool.false_eq_true, ↓reduceIte]
      have free := Pool.takeSlot?_eq_none_iff.mp slot
      rw [acquired]
      exact .inl ⟨.inr (.inl free), _, rfl, Fault.kind_connectionFailure _ _ _, order.has⟩
    | some rest =>
      rcases acquire_of_slot setup order closed slot with ⟨refuses, cause, failed, has⟩ | given
      · exact .inl ⟨refuses, _, failed, Fault.kind_connectionFailure _ _ _, has⟩
      · exact .inr given

/-- A lease that is given back returns its slot, and the client is closed if nobody else will. -/
theorem release_ends (order : stage.outside.InOrder size 0 held) {place : Nat} {client : String}
    (found : held[place]? = some client) :
    (runOn ((host setup).release client) stage).1 = .ok () ∧
      (runOn ((host setup).release client) stage).2.outside.InOrder size 0
        (held.eraseIdx place) ∧
      (runOn ((host setup).release client) stage).2.outside.pool.closed =
        stage.outside.pool.closed := by
  have books := (order.books.giveBack found).returnSlot
  have closed_eq := Pool.closed_giveBack stage.outside.pool client
  have member : client ∈ stage.outside.factory.made :=
    order.books.held_made (List.mem_of_getElem? found)
  have pool_eq : (host setup).pool stage.outside = stage.outside.pool := rfl
  unfold Pool.Host.release
  rw [runOn_bind, runOn_view]
  dsimp only
  rw [pool_eq]
  rcases given : stage.outside.pool.giveBack client with ⟨orphaned, rest⟩
  rw [given] at books closed_eq
  have has : ((host setup).setPool rest.returnSlot stage.outside).Has rest.returnSlot
      stage.outside.factory.made := ⟨rfl, rfl, order.numbered⟩
  dsimp only
  rw [runOn_bind, Pool.Host.put, runOn_change]
  dsimp only
  cases orphaned with
  | false => exact ⟨rfl, has.inOrder books, closed_eq⟩
  | true =>
    obtain ⟨_, ended, still⟩ := closeClient_keeps setup (askFactory setup) member
      { stage with outside := (host setup).setPool rest.returnSlot stage.outside } has
    exact ⟨ended, still.inOrder books, (congrArg Pool.closed still.pool_eq).trans closed_eq⟩

theorem close_ends (order : stage.outside.InOrder size 0 held) :
    (runOn (host setup).close stage).1 = .ok () ∧
      (runOn (host setup).close stage).2.outside.InOrder size 0 held ∧
      (runOn (host setup).close stage).2.outside.pool.closed = true := by
  obtain ⟨_, ended, has⟩ :=
    close_shuts setup (askFactory setup) order.books.created_made stage order.has
  exact ⟨ended, has.inOrder order.books.shut, congrArg Pool.closed has.pool_eq⟩

/-- What a session shows of the pool of a site: the accounts of its slots and clients, and what
comes of one more lease and of closing the pool. -/
structure Accounts (setup : PoolSetup) (size : Nat) (session : Pool.Session Site String) :
    Prop where
  inUse_eq : session.stage.outside.pool.inUse = session.leases.length
  free_add_inUse : session.stage.outside.pool.free + session.stage.outside.pool.inUse = size
  /-- No client is held by two leases, and none is both held and idle. -/
  apart : (session.leases ++ session.stage.outside.pool.idle).Nodup
  within : session.stage.outside.pool.closed = false →
    session.stage.outside.factory.made.length ≤ size
  placed : session.stage.outside.pool.closed = false →
    ∀ client ∈ session.stage.outside.factory.made,
      client ∈ session.leases ∨ client ∈ session.stage.outside.pool.idle
  refused_iff : (∃ fault, ((host setup).step session .lease).1 = .error fault) ↔
    session.stage.outside.Refuses
  /-- A lease that is refused fails to connect, and it leaves everything as it was. -/
  refused_keeps : ∀ fault, ((host setup).step session .lease).1 = .error fault →
    fault.kind = .connectionFailure ∧
      ((host setup).step session .lease).2.leases = session.leases ∧
      ((host setup).step session .lease).2.stage.outside.pool = session.stage.outside.pool ∧
      ((host setup).step session .lease).2.stage.outside.factory.made =
        session.stage.outside.factory.made
  closes : ((host setup).step session .close).2.stage.outside.pool.closed = true
  never_idle : session.stage.outside.pool.closed = true → ∀ later,
    ((host setup).after session later).stage.outside.pool.idle = []

variable {session : Pool.Session Site String}

/-- What comes of one more lease. -/
theorem step_lease (order : session.stage.outside.InOrder size 0 session.leases) :
    (session.stage.outside.Refuses ∧ ∃ fault stage,
      (host setup).step session .lease = (.error fault, ⟨stage, session.leases⟩) ∧
      fault.kind = .connectionFailure ∧
      stage.outside.Has session.stage.outside.pool session.stage.outside.factory.made) ∨
    ¬session.stage.outside.Refuses ∧ ∃ client stage,
      (host setup).step session .lease = (.ok (), ⟨stage, session.leases ++ [client]⟩) ∧
      stage.outside.InOrder size 0 (session.leases ++ [client]) := by
  have acquired := acquire_run setup order
  simp only [Pool.Host.step]
  rcases ran : runOn (host setup).acquire session.stage with ⟨answer, after⟩
  rw [ran] at acquired
  rcases acquired with ⟨refuses, fault, rfl, kind, has⟩ | ⟨able, client, rfl, kept⟩
  · exact .inl ⟨refuses, fault, after, rfl, kind, has⟩
  · exact .inr ⟨able, client, after, rfl, kept⟩

/-- **A step keeps the books in order**, and no step opens a pool that is closed. -/
theorem step_inOrder (order : session.stage.outside.InOrder size 0 session.leases)
    (step : Pool.Step) :
    ((host setup).step session step).2.stage.outside.InOrder size 0
        ((host setup).step session step).2.leases ∧
      (session.stage.outside.pool.closed = true →
        ((host setup).step session step).2.stage.outside.pool.closed = true) := by
  cases step with
  | lease =>
    rcases step_lease setup order with
      ⟨_, fault, stage, stepped, _, has⟩ | ⟨able, client, stage, stepped, kept⟩
    · rw [stepped]
      exact ⟨has.inOrder order.books, fun closed => (congrArg Pool.closed has.pool_eq).trans closed⟩
    · rw [stepped]
      exact ⟨kept, fun closed => absurd (.inl closed) able⟩
  | release place outcome =>
    simp only [Pool.Host.step]
    cases found : session.leases[place]? with
    | none => exact ⟨order, id⟩
    | some client =>
      obtain ⟨ended, kept, same⟩ := release_ends setup order found
      dsimp only
      rw [Pool.Host.leave, runOn_bind_of_ok ended, runOn_settle]
      exact ⟨kept, fun closed => same.trans closed⟩
  | close =>
    obtain ⟨_, kept, closed⟩ := close_ends setup order
    exact ⟨kept, fun _ => closed⟩

/-- Steps one after the other keep the books in order. -/
theorem after_inOrder (order : session.stage.outside.InOrder size 0 session.leases)
    (steps : List Pool.Step) :
    ((host setup).after session steps).stage.outside.InOrder size 0
        ((host setup).after session steps).leases ∧
      (session.stage.outside.pool.closed = true →
        ((host setup).after session steps).stage.outside.pool.closed = true) := by
  induction steps generalizing session with
  | nil => exact ⟨order, id⟩
  | cons step others ih =>
    obtain ⟨kept, closed⟩ := step_inOrder setup order step
    obtain ⟨ended, still⟩ := ih kept
    exact ⟨ended, fun shut => still (closed shut)⟩

theorem InOrder.accounts (order : session.stage.outside.InOrder size 0 session.leases) :
    Accounts setup size session where
  inUse_eq := order.books.inUse_eq
  free_add_inUse := by
    rw [order.books.inUse_eq]
    exact order.books.slots_eq
  apart := order.books.apart
  within := order.books.within
  placed isOpen _ member := List.mem_append.mp (order.books.placed isOpen member)
  refused_iff := by
    rcases step_lease setup order with
      ⟨refuses, fault, stage, stepped, _, _⟩ | ⟨able, client, stage, stepped, _⟩
    · rw [stepped]
      exact iff_of_true ⟨fault, rfl⟩ refuses
    · rw [stepped]
      refine iff_of_false ?_ able
      rintro ⟨_, same⟩
      cases same
  refused_keeps := by
    rcases step_lease setup order with
      ⟨_, fault, stage, stepped, kind, has⟩ | ⟨_, client, stage, stepped, _⟩
    · rw [stepped]
      intro raised same
      obtain rfl : fault = raised := Except.error.inj same
      exact ⟨kind, rfl, has.pool_eq, has.made_eq⟩
    · rw [stepped]
      intro _ same
      cases same
  closes := (close_ends setup order).2.2
  never_idle closed later := by
    obtain ⟨kept, still⟩ := after_inOrder setup order later
    exact kept.books.idle_eq_nil (still closed)

/-- The site with a new pool of so many slots and a factory that has made nothing so far. -/
def opened (site : Site) (size : Nat) (script : List Making) (closeFault : Option Fault) : Site :=
  { site with pool := .ofSize size, factory := { script, closeFault } }

end Site

/-- **The accounts of a pool.** Whatever the factory is scripted to do and whether or not clients
fail to close, let leases be opened and given back in any order, with any outcome, and let the pool
be closed at any time. Then at all times the clients in use are those of the open leases and every
other slot is free; no client is in two hands; while the pool is open, no more clients have been made
than it has slots, and each is held or idle; a lease is refused only by a closed pool, by one without
a free slot, or for a failure to make a client, and then nothing changes; and once the pool is
closed, no client is idle again. -/
theorem session_keeps_accounts (setup : Site.PoolSetup) (site : Site) (journal : Journal)
    (size : Nat) (script : List Making) (closeFault : Option Fault) (steps : List Pool.Step) :
    Site.Accounts setup size ((Site.host setup).after
      { stage := { outside := site.opened size script closeFault, journal } } steps) := by
  have numbered : Factory.Numbered { script, closeFault } := ⟨rfl, rfl⟩
  have opening : (site.opened size script closeFault).InOrder size 0 [] :=
    ⟨numbered, Pool.Books.ofSize size⟩
  exact (Site.after_inOrder setup opening steps).1.accounts setup

end CatalogDelta
