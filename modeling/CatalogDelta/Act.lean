import CatalogDelta.Journal.Entry

/-!
# Computations on the outside

An act uses the outside, writes entries in the journal and gives an answer or fails. A failure
undoes nothing: what was changed and written before it stays.
-/

namespace CatalogDelta

/-- The outside as it stands, and the journal so far. -/
structure Stage (σ : Type) where
  outside : σ
  journal : Journal := []

abbrev Act (σ : Type) : Type → Type := ExceptT Fault (StateM (Stage σ))

namespace Act

variable {σ α : Type}

def runOn (act : Act σ α) (stage : Stage σ) : Except Fault α × Stage σ := act.run.run stage

def note (level : Level) (author message : String) : Act σ Unit :=
  modify fun stage => { stage with journal := stage.journal ++ [⟨level, author, message, []⟩] }

def record (entry : Entry) : Act σ Unit :=
  modify fun stage => { stage with journal := stage.journal ++ [entry] }

def view (part : σ → α) : Act σ α := do return part (← get).outside

def change (step : σ → σ) : Act σ Unit :=
  modify fun stage => { stage with outside := step stage.outside }

/-- Fail with a fault, or give an answer, as already settled. -/
def settle : Except Fault α → Act σ α
  | .ok answer => pure answer
  | .error fault => throw fault

def attempt (act : Act σ α) : Act σ (Except Fault α) := ExceptT.mk do return .ok (← act.run)

@[simp] theorem runOn_pure (answer : α) (stage : Stage σ) :
    runOn (pure answer : Act σ α) stage = (.ok answer, stage) := rfl

@[simp] theorem runOn_throw (fault : Fault) (stage : Stage σ) :
    runOn (throw fault : Act σ α) stage = (.error fault, stage) := rfl

theorem runOn_bind {β : Type} (act : Act σ α) (next : α → Act σ β) (stage : Stage σ) :
    runOn (act >>= next) stage =
      match runOn act stage with
      | (.ok answer, after) => runOn (next answer) after
      | (.error fault, after) => (.error fault, after) := by
  simp only [runOn, ExceptT.run, bind, ExceptT.bind, ExceptT.mk, StateT.bind, StateT.run]
  rcases act stage with ⟨answer | fault, after⟩ <;> rfl

@[simp] theorem runOn_settle (settled : Except Fault α) (stage : Stage σ) :
    runOn (settle settled : Act σ α) stage = (settled, stage) := by
  cases settled <;> rfl

theorem runOn_attempt (act : Act σ α) (stage : Stage σ) :
    runOn (attempt act) stage = (.ok (runOn act stage).1, (runOn act stage).2) := rfl

end Act
end CatalogDelta
