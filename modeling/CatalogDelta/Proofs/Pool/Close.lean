import CatalogDelta.Pool.Lease
import CatalogDelta.Proofs.Act.Gives

/-!
# Closing clients

A client that fails to close does not stop anything: closing a client always ends, and so does
closing a pool.
-/

namespace CatalogDelta

open Act

/-- Acts that keep a condition keep it one after the other. -/
theorem Act.returns_forM {σ ι : Type} {ready : σ → Prop} {act : ι → Act σ Unit} {items : List ι}
    (each : ∀ item ∈ items, Returns ready (act item)) : Returns ready (items.forM act) := by
  induction items with
  | nil => exact ends_pure ()
  | cons item others ih =>
    have rest := ih fun other member => each other (List.mem_cons_of_mem item member)
    change Returns ready (act item >>= fun _ => others.forM act)
    exact Ends.bind (each item List.mem_cons_self) fun _ => rest

namespace Pool.Host

variable {σ κ : Type} {host : Host σ κ}

/-- What closing a client does is what the client does when it closes. -/
theorem closeClient_run (host : Host σ κ) (client : κ) (stage : Stage σ) :
    (runOn (host.closeClient client) stage).1 = .ok () ∧
      (runOn (host.closeClient client) stage).2.outside =
        (runOn (host.client client).close stage).2.outside := by
  unfold closeClient
  rw [runOn_bind, runOn_attempt]
  cases (runOn (host.client client).close stage).1 with
  | ok => exact ⟨rfl, rfl⟩
  | error => exact ⟨rfl, rfl⟩

theorem closeClient_ends {before after : σ → Prop} {client : κ}
    (closes : ∀ stage : Stage σ, before stage.outside →
      after (runOn (host.client client).close stage).2.outside) :
    Ends before (host.closeClient client) fun _ => after := by
  intro stage met
  obtain ⟨ended, same⟩ := closeClient_run host client stage
  refine ⟨(), ended, ?_⟩
  rw [same]
  exact closes stage met

/-- Closing a pool shuts it and closes the clients that it had entered. -/
theorem close_ends {before after : σ → Prop} {pool : Pool κ}
    (stands : ∀ outside, before outside → host.pool outside = pool)
    (shuts : ∀ outside, before outside → after (host.setPool pool.shut.2 outside))
    (closes : ∀ client ∈ pool.created, Returns after (host.closeClient client)) :
    Ends before host.close fun _ => after := by
  intro stage met
  unfold close
  rw [runOn_bind, runOn_view, stands _ met]
  have started : Ends before (host.put pool.shut.2) fun _ => after := ends_change shuts
  exact Ends.bind started (fun _ => Ends.bind (returns_forM closes) fun _ => ends_note _ _ _)
    stage met

end Pool.Host
end CatalogDelta
