import CatalogDelta.Pool.Lease

/-!
# Pools in use by many

Any number of leases and closings of a pool may be under way at a time, begun by whomever. What they
do interleaves: a move is what one of them does without being disturbed. It looks whether the pool
is closed, takes or returns a slot, does what is done to the pool at once, makes a client, or closes
one. A lease may wait for a slot as long as it likes, and give up while there is none.
-/

namespace CatalogDelta.Pool

/-- How far a lease has come. -/
inductive LeaseState (κ : Type) where
  | begun
  /-- The pool was open. -/
  | admitted
  /-- There is a slot for the lease. -/
  | placed
  /-- No client was idle, so that one has to be made. -/
  | lacking
  /-- A client has been made, and has yet to be entered. -/
  | bringing (client : κ)
  /-- The client is at work. -/
  | holding (client : κ)
  /-- The client has been given back, to be closed or not, and the slot has yet to be returned. -/
  | leaving (client : κ) (orphaned : Bool)
  /-- The slot has been returned, and the client has yet to be closed. -/
  | closing (client : κ)
  /-- No client could be made, and the slot has yet to be returned. -/
  | failing (cause : Fault)
  | ended (outcome : Except Fault Unit)

/-- How far a closing has come. -/
inductive ClosingState (κ : Type) where
  | begun
  /-- The pool is shut, and some of its clients have yet to be closed. -/
  | closing (count : Nat) (left : List κ)
  | ended

/-- A lease or a closing. -/
inductive Call (κ : Type) where
  | lease (state : LeaseState κ)
  | close (state : ClosingState κ)

def Call.isOver {κ : Type} : Call κ → Bool
  | .lease (.ended _) | .close .ended => true
  | _ => false

/-- What happens next in the use of a pool. -/
inductive Move where
  /-- A lease begins. -/
  | lease
  /-- A closing begins. -/
  | close
  /-- The call at a place goes on. -/
  | go (place : Nat)
  /-- The lease at a place waits for a slot no longer. -/
  | giveUp (place : Nat)

/-- The outside and the journal, and the leases and closings so far. -/
structure Traffic (σ κ : Type) where
  stage : Stage σ
  calls : List (Call κ) := []

namespace Host

variable {σ κ : Type} [DecidableEq κ]

/-- The stage with another pool. -/
def withPool (host : Host σ κ) (pool : Pool κ) (stage : Stage σ) : Stage σ :=
  { stage with outside := host.setPool pool stage.outside }

/-- Make the client that a lease lacks. -/
def bring (host : Host σ κ) (stage : Stage σ) : LeaseState κ × Stage σ :=
  match Act.runOn host.make stage with
  | (.ok client, after) => (.bringing client, after)
  | (.error cause, after) => (.failing cause, after)

/-- Write a client down that has been made, and enter it. -/
def enrol (host : Host σ κ) (client : κ) : Act σ Unit := do
  Act.note Level.debug Author.catalog ("Created catalog client " ++ (host.client client).kind)
  host.put ((← Act.view host.pool).enter client)

/-- What a lease does next, unless it has to wait or is over. -/
def goOnLease? (host : Host σ κ) : LeaseState κ → Stage σ → Option (LeaseState κ × Stage σ)
  | .begun, stage =>
    if (host.pool stage.outside).closed then some (.ended (.error closedFault), stage)
    else some (.admitted, stage)
  | .admitted, stage =>
    (host.pool stage.outside).takeSlot?.map fun pool => (.placed, host.withPool pool stage)
  | .placed, stage =>
    match (host.pool stage.outside).takeIdle? with
    | some (client, pool) => some (.holding client, host.withPool pool stage)
    | none => some (.lacking, stage)
  | .lacking, stage => some (host.bring stage)
  | .bringing client, stage => some (.holding client, (Act.runOn (host.enrol client) stage).2)
  | .holding client, stage =>
    let (orphaned, pool) := (host.pool stage.outside).giveBack client
    some (.leaving client orphaned, host.withPool pool stage)
  | .leaving client orphaned, stage =>
    some (if orphaned then .closing client else .ended (.ok ()),
      host.withPool (host.pool stage.outside).returnSlot stage)
  | .closing client, stage => some (.ended (.ok ()), (Act.runOn (host.closeClient client) stage).2)
  | .failing cause, stage =>
    some (.ended (.error (makingFault cause)),
      host.withPool (host.pool stage.outside).returnSlot stage)
  | .ended _, _ => none

/-- What a closing does next, unless it is over. -/
def goOnClosing? (host : Host σ κ) :
    ClosingState κ → Stage σ → Option (ClosingState κ × Stage σ)
  | .begun, stage =>
    let (clients, pool) := (host.pool stage.outside).shut
    some (.closing clients.length clients, host.withPool pool stage)
  | .closing count (client :: left), stage =>
    some (.closing count left, (Act.runOn (host.closeClient client) stage).2)
  | .closing count [], stage =>
    some (.ended, (Act.runOn (Act.note Level.debug Author.catalog
      ("Closed " ++ toString count ++ " catalog client(s)")) stage).2)
  | .ended, _ => none

def goOn? (host : Host σ κ) : Call κ → Stage σ → Option (Call κ × Stage σ)
  | .lease state, stage => (host.goOnLease? state stage).map fun (state, after) =>
    (.lease state, after)
  | .close state, stage => (host.goOnClosing? state stage).map fun (state, after) =>
    (.close state, after)

/-- A lease that waits for a slot while there is none may give up. -/
def giveUp? (host : Host σ κ) : Call κ → Stage σ → Option (Call κ × Stage σ)
  | .lease .admitted, stage =>
    if (host.pool stage.outside).free = 0 then
      some (.lease (.ended (.error (host.timeoutFault (host.pool stage.outside)))), stage)
    else none
  | _, _ => none

/-- What becomes of the call at a place. -/
def moveAt? (place : Nat) (next? : Call κ → Stage σ → Option (Call κ × Stage σ))
    (traffic : Traffic σ κ) : Option (Traffic σ κ) :=
  match traffic.calls[place]? with
  | some call =>
    (next? call traffic.stage).map fun (next, after) =>
      { stage := after, calls := traffic.calls.set place next }
  | none => none

/-- What becomes of the traffic by a move, unless nobody can make it. -/
def move? (host : Host σ κ) : Move → Traffic σ κ → Option (Traffic σ κ)
  | .lease, traffic => some { traffic with calls := traffic.calls ++ [.lease .begun] }
  | .close, traffic => some { traffic with calls := traffic.calls ++ [.close .begun] }
  | .go place, traffic => moveAt? place host.goOn? traffic
  | .giveUp place, traffic => moveAt? place host.giveUp? traffic

/-- Make moves one after the other. -/
def play? (host : Host σ κ) : List Move → Traffic σ κ → Option (Traffic σ κ)
  | [], traffic => some traffic
  | move :: others, traffic => (host.move? move traffic).bind (host.play? others)

end Host
end CatalogDelta.Pool
