import CatalogDelta.Pool.Lease

/-!
# Sessions with a pool

A session is what one worker does with a pool from its making on: leases are opened and given back
in any order, and the pool may be closed at any time, also while leases are open.
-/

namespace CatalogDelta.Pool

/-- What is done with a pool. -/
inductive Step where
  | lease
  /-- The work of an open lease, counted from the oldest, ends with some outcome. -/
  | release (place : Nat) (outcome : Except Fault Unit)
  | close

/-- The outside and the journal, and the clients of the open leases, the oldest first. -/
structure Session (σ κ : Type) where
  stage : Stage σ
  leases : List κ := []

namespace Host

variable {σ κ : Type} [DecidableEq κ]

/-- Give a client back after its work; what the work ended with is what the lease ends with. -/
def leave (host : Host σ κ) (client : κ) (outcome : Except Fault Unit) : Act σ Unit := do
  host.release client
  Act.settle outcome

/-- What comes of a step. There is nothing to do for a lease that is not open. -/
def step (host : Host σ κ) (session : Session σ κ) : Step → Except Fault Unit × Session σ κ
  | .lease =>
    match Act.runOn host.acquire session.stage with
    | (.ok client, stage) => (.ok (), { stage, leases := session.leases ++ [client] })
    | (.error fault, stage) => (.error fault, { stage, leases := session.leases })
  | .release place outcome =>
    match session.leases[place]? with
    | none => (.ok (), session)
    | some client =>
      let (answer, stage) := Act.runOn (host.leave client outcome) session.stage
      (answer, { stage, leases := session.leases.eraseIdx place })
  | .close =>
    let (answer, stage) := Act.runOn host.close session.stage
    (answer, { stage, leases := session.leases })

/-- What is left of a session after some steps. -/
def after (host : Host σ κ) (session : Session σ κ) (steps : List Step) : Session σ κ :=
  steps.foldl (fun session step => (host.step session step).2) session

end Host
end CatalogDelta.Pool
