import CatalogDelta.Catalog.Client
import CatalogDelta.Pool.Basic

/-!
# Leases

A lease takes a client out of the pool for the length of a piece of work and gives it back on every
way out. Nothing is ever waited for here: a slot is free or the lease fails.
-/

namespace CatalogDelta.Pool

/-- An empty pool of a configured size; it needs at least one slot. -/
def ofSize? {κ : Type} [DecidableEq κ] (size : Int) : Except Fault (Pool κ) :=
  if size < 1 then .error (.invalidValue "max_size must be at least 1") else .ok (ofSize size.toNat)

/-- How acts reach a pool and its clients. -/
structure Host (σ κ : Type) where
  pool : σ → Pool κ
  setPool : Pool κ → σ → σ
  /-- Make a client. -/
  make : Act σ κ
  /-- The client of a key. -/
  client : κ → Client σ
  /-- How long a slot is waited for, in seconds, or without end. -/
  patience : Data := .null

namespace Host

variable {σ κ α : Type} [DecidableEq κ]

def put (host : Host σ κ) (pool : Pool κ) : Act σ Unit := Act.change (host.setPool pool)

def closedFault : Fault := .connectionFailure "Catalog client pool is closed"

/-- A lease for which no slot becomes free. -/
def timeoutFault (host : Host σ κ) (pool : Pool κ) : Fault :=
  .connectionFailure "Timed out waiting for a catalog client"
    [("max_size", .int pool.size), ("acquire_timeout", host.patience)]

/-- A lease whose client cannot be made. -/
def makingFault (cause : Fault) : Fault :=
  .connectionFailure "Could not create a catalog client" [] (some cause)

/-- Get an idle client or make a new one. -/
def checkOut (host : Host σ κ) : Act σ κ := do
  match (← Act.view host.pool).takeIdle? with
  | some (client, pool) =>
    host.put pool
    return client
  | none =>
    let client ← host.make
    Act.note Level.debug Author.catalog ("Created catalog client " ++ (host.client client).kind)
    host.put ((← Act.view host.pool).enter client)
    return client

def acquire (host : Host σ κ) : Act σ κ := do
  let pool ← Act.view host.pool
  if pool.closed then throw closedFault
  match pool.takeSlot? with
  | none => throw (host.timeoutFault pool)
  | some pool =>
    host.put pool
    match ← Act.attempt host.checkOut with
    | .ok client => return client
    | .error cause =>
      host.put (← Act.view host.pool).returnSlot
      throw (makingFault cause)

/-- Close a client; a failure to close is written down and forgotten. -/
def closeClient (host : Host σ κ) (client : κ) : Act σ Unit := do
  match ← Act.attempt (host.client client).close with
  | .ok _ => return
  | .error fault =>
    Act.note Level.warning Author.catalog ("Error closing catalog client: " ++ fault.text)

def release (host : Host σ κ) (client : κ) : Act σ Unit := do
  let (orphaned, pool) := (← Act.view host.pool).giveBack client
  host.put pool.returnSlot
  if orphaned then host.closeClient client

def lease (host : Host σ κ) (work : Client σ → Act σ α) : Act σ α := do
  let client ← host.acquire
  let outcome ← Act.attempt (work (host.client client))
  host.release client
  Act.settle outcome

/-- Close the pool with every client it has made. -/
def close (host : Host σ κ) : Act σ Unit := do
  let (clients, pool) := (← Act.view host.pool).shut
  host.put pool
  clients.forM host.closeClient
  Act.note Level.debug Author.catalog
    ("Closed " ++ toString clients.length ++ " catalog client(s)")

/-- Do something and close the pool on every way out. -/
def closing (host : Host σ κ) (work : Act σ α) : Act σ α := do
  let outcome ← Act.attempt work
  host.close
  Act.settle outcome

end Host
end CatalogDelta.Pool
