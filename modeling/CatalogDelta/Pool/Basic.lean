/-!
# The state of a client pool

A pool hands out clients, at most as many at a time as it has slots. The functions here are its
indivisible steps: a slot is taken or returned, an idle client is taken, a new one is entered, a
client is given back, the pool is shut. Clients are told apart by their keys.
-/

namespace CatalogDelta

/-- The state of a pool whose clients have keys of some type. -/
structure Pool (κ : Type) where
  /-- How many clients may be out at a time. -/
  size : Nat
  /-- Slots not taken. -/
  free : Nat := size
  /-- Clients that wait to be handed out; the last one is next. -/
  idle : List κ := []
  /-- Clients that the pool has to close one day, in the order of their making. -/
  created : List κ := []
  /-- How many clients are out. -/
  inUse : Nat := 0
  closed : Bool := false
  deriving Repr

namespace Pool

variable {κ : Type} [DecidableEq κ]

/-- An empty pool with so many slots. -/
def ofSize (size : Nat) : Pool κ := { size }

/-- Take a slot, if one is free. -/
def takeSlot? (pool : Pool κ) : Option (Pool κ) :=
  if pool.free = 0 then none else some { pool with free := pool.free - 1 }

def returnSlot (pool : Pool κ) : Pool κ := { pool with free := pool.free + 1 }

/-- Take the idle client that came in last, if there is one. -/
def takeIdle? (pool : Pool κ) : Option (κ × Pool κ) :=
  match pool.idle.getLast? with
  | none => none
  | some client =>
    some (client, { pool with idle := pool.idle.dropLast, inUse := pool.inUse + 1 })

/-- Enter a client that has been made, and hand it out. A client that is known is not entered
again. -/
def enter (pool : Pool κ) (client : κ) : Pool κ :=
  { pool with
    created := if pool.created.contains client then pool.created else pool.created ++ [client]
    inUse := pool.inUse + 1 }

/-- Take a client back. An open pool keeps it; a closed one that has yet to close it drops it, and
the answer says that it has to be closed now. -/
def giveBack (pool : Pool κ) (client : κ) : Bool × Pool κ :=
  let pool := { pool with inUse := pool.inUse - 1 }
  if !pool.closed then (false, { pool with idle := pool.idle ++ [client] })
  else if pool.created.contains client then
    (true, { pool with created := pool.created.filter (· ≠ client) })
  else (false, pool)

/-- Shut the pool; the clients it has to close are handed over. -/
def shut (pool : Pool κ) : List κ × Pool κ :=
  (pool.created, { pool with closed := true, created := [], idle := [] })

end Pool
end CatalogDelta
