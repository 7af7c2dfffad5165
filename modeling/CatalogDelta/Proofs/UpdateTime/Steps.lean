import CatalogDelta.Proofs.Act.Closed
import CatalogDelta.UpdateTime.Storage

/-!
# Steps of a storage

To look up an entity in storage is composed of the steps of the storage. So whatever closed property
these have, it has too. Main statement: `Has.lookUp`.
-/

namespace CatalogDelta.Storage

open Act

variable {σ : Type} {holds : (α : Type) → Act σ α → Prop} {storage : Storage σ}

/-- The steps of a storage have a property. -/
structure Has (holds : (α : Type) → Act σ α → Prop) (storage : Storage σ) : Prop where
  connect : ∀ protocol options, holds Unit (storage.connect protocol options)
  remember : ∀ source protocol, holds Unit (change (storage.remember source protocol))
  isThere : ∀ protocol path, holds Bool (storage.isThere protocol path)
  info : ∀ protocol path, holds Data (storage.info protocol path)
  children : ∀ protocol path, holds Data (storage.children protocol path)

theorem Has.ensure (has : storage.Has holds) (closed : Closed holds) (source : Nat)
    (options : List (String × Data)) (protocol : String) :
    holds Unit (storage.ensure source options protocol) := by
  refine closed.bind (closed.view _) fun connected => ?_
  cases connected with
  | true => exact closed.pure _
  | false =>
    have connects := closed.bind (has.connect protocol options) fun _ => has.remember source protocol
    by_cases twice : OrderedMap.hasKey "protocol" options = true
    · simp only [twice, Bool.not_false, ↓reduceIte]
      exact closed.bind (closed.throw _) fun _ => connects
    · simp only [twice, Bool.not_false, Bool.false_eq_true, ↓reduceIte]
      exact connects

theorem Has.ask (has : storage.Has holds) (closed : Closed holds) (source : Nat)
    (options : List (String × Data)) (entity : Entity) (location : String) :
    holds (Option Int) (storage.ask source options entity location) := by
  refine closed.bind (has.ensure closed source options _) fun _ => ?_
  refine closed.bind (has.isThere _ location) fun there => ?_
  cases there with
  | false => exact closed.throw _
  | true =>
    refine closed.bind (has.info _ location) fun known => ?_
    cases known with
    | map entries =>
      dsimp only
      split
      · refine closed.bind (has.children _ location) fun listed => ?_
        refine closed.bind (closed.settle _) fun children => ?_
        refine closed.bind (closed.settle _) fun newest => ?_
        cases newest with
        | some millis => exact closed.pure _
        | none => exact closed.settle _
      · exact closed.settle _
    | _ => exact closed.throw _

theorem Has.askOdd (has : storage.Has holds) (closed : Closed holds) (source : Nat)
    (options : List (String × Data)) (location : Data) :
    holds (Option Int) (storage.askOdd source options location) := by
  refine closed.bind (closed.settle _) fun marked => ?_
  cases marked with
  | true => exact closed.throw _
  | false => exact closed.bind (has.ensure closed source options "file") fun _ => closed.throw _

/-- Looking up an entity has every closed property that the steps of the storage have. -/
theorem Has.lookUp (has : storage.Has holds) (closed : Closed holds) (source : Nat)
    (options : List (String × Data)) (entity : Entity) :
    holds Int (storage.lookUp source options entity) := by
  unfold Storage.lookUp
  dsimp only
  split
  · exact closed.throw _
  · refine closed.bind (closed.attempt ?_) fun outcome => ?_
    · split
      · exact has.ask closed source options entity _
      · exact has.askOdd closed source options _
    · cases outcome with
      | ok time =>
        cases time with
        | some millis => exact closed.bind (closed.note _ _ _) fun _ => closed.pure millis
        | none => exact closed.throw _
      | error fault =>
        dsimp only
        split
        · exact closed.throw _
        · exact closed.throw _

end CatalogDelta.Storage
