import CatalogDelta.Proofs.Act.Yields

/-!
# Properties that composed acts take over

A property of acts is closed if the smallest acts have it and an act that is composed of others has
it with them. So it is with acts that keep a condition, and with acts that do not read the journal.
-/

namespace CatalogDelta.Act

section Closed

variable {σ : Type} {holds : (α : Type) → Act σ α → Prop}

/-- The property is that of the smallest acts, and it goes over to the acts composed of others. -/
structure Closed (holds : (α : Type) → Act σ α → Prop) : Prop where
  pure : ∀ {α : Type} (value : α), holds α (pure value)
  throw : ∀ {α : Type} (fault : Fault), holds α (throw fault)
  note : ∀ level author message, holds Unit (note level author message)
  view : ∀ {α : Type} (part : σ → α), holds α (view part)
  bind : ∀ {α β : Type} {act : Act σ α} {next : α → Act σ β}, holds α act →
    (∀ value, holds β (next value)) → holds β (act >>= next)
  attempt : ∀ {α : Type} {act : Act σ α}, holds α act → holds (Except Fault α) (attempt act)

theorem Closed.settle {α : Type} (closed : Closed holds) (settled : Except Fault α) :
    holds α (settle settled) := by
  cases settled with
  | ok value => exact closed.pure value
  | error fault => exact closed.throw fault

theorem closed_keeps (ready : σ → Prop) : Closed fun _ act => Keeps ready act where
  pure := keeps_pure
  throw := keeps_throw
  note := keeps_note
  view := keeps_view
  bind first rest := first.bind rest
  attempt first := fun stage met => ⟨(first stage met).1, fun _ _ => trivial⟩

end Closed

/-! ## Acts that do not read the journal -/

section Blind

variable {σ α β : Type}

/-- On stages that differ in the journal only, the act answers the same and leaves the same
outside. -/
def Blind (act : Act σ α) : Prop :=
  ∀ stage other : Stage σ, stage.outside = other.outside →
    (runOn act stage).1 = (runOn act other).1 ∧
      (runOn act stage).2.outside = (runOn act other).2.outside

theorem blind_pure (value : α) : Blind (pure value : Act σ α) :=
  fun _ _ same => ⟨rfl, same⟩

theorem blind_throw (fault : Fault) : Blind (throw fault : Act σ α) :=
  fun _ _ same => ⟨rfl, same⟩

theorem blind_note (level : Level) (author message : String) :
    Blind (note level author message : Act σ Unit) :=
  fun _ _ same => ⟨rfl, same⟩

theorem blind_view (part : σ → α) : Blind (view part) :=
  fun _ _ same => ⟨congrArg (Except.ok ∘ part) same, same⟩

theorem blind_change (step : σ → σ) : Blind (change step) :=
  fun _ _ same => ⟨rfl, congrArg step same⟩

variable {act : Act σ α}

theorem Blind.bind {next : α → Act σ β} (first : Blind act) (rest : ∀ value, Blind (next value)) :
    Blind (act >>= next) := by
  intro stage other same
  obtain ⟨answers, outsides⟩ := first stage other same
  cases given : (runOn act stage).1 with
  | ok value =>
    rw [runOn_bind_of_ok given, runOn_bind_of_ok (answers ▸ given)]
    exact rest value _ _ outsides
  | error fault =>
    rw [runOn_bind_of_error given, runOn_bind_of_error (answers ▸ given)]
    exact ⟨rfl, outsides⟩

theorem Blind.attempt (blind : Blind act) : Blind (attempt act) := by
  intro stage other same
  obtain ⟨answers, outsides⟩ := blind stage other same
  exact ⟨congrArg Except.ok answers, outsides⟩

theorem closed_blind : Closed fun (α : Type) (act : Act σ α) => Blind act where
  pure := blind_pure
  throw := blind_throw
  note := blind_note
  view := blind_view
  bind := Blind.bind
  attempt := Blind.attempt

end Blind

end CatalogDelta.Act
