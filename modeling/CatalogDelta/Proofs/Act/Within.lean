import CatalogDelta.Proofs.Act.Yields

/-!
# How an act may end

`Act.Within` says that an act keeps a condition on the outside, that an answer it gives is good, and
that a fault it ends with is allowed. The rules follow the ways in which acts are composed.
-/

namespace CatalogDelta.Act

variable {σ α β : Type} {ready : σ → Prop} {good : α → Prop} {fine : β → Prop}
  {allowed tolerated : Fault → Prop}

/-- An answer is good, or a fault is allowed. -/
def Fair (good : α → Prop) (allowed : Fault → Prop) : Except Fault α → Prop
  | .ok answer => good answer
  | .error fault => allowed fault

/-- Wherever the outside meets the condition, the act keeps it and ends fairly. -/
def Within (ready : σ → Prop) (act : Act σ α) (good : α → Prop) (allowed : Fault → Prop) : Prop :=
  ∀ stage : Stage σ, ready stage.outside →
    ready (runOn act stage).2.outside ∧ Fair good allowed (runOn act stage).1

theorem within_pure {answer : α} (holds : good answer) : Within ready (pure answer) good allowed :=
  fun _ met => ⟨met, holds⟩

theorem within_throw {fault : Fault} (holds : allowed fault) :
    Within ready (throw fault) good allowed :=
  fun _ met => ⟨met, holds⟩

/-- An act that keeps the condition and always ends in an answer ends fairly. -/
theorem Returns.within {act : Act σ α} (returns : Returns ready act) :
    Within ready act (fun _ => True) allowed := by
  intro stage met
  obtain ⟨answer, given, kept⟩ := returns stage met
  rw [given]
  exact ⟨kept, trivial⟩

theorem within_record (entry : Entry) :
    Within ready (record entry) (fun _ => True) allowed :=
  fun _ met => ⟨met, trivial⟩

theorem within_note (level : Level) (author message : String) :
    Within ready (note level author message) (fun _ => True) allowed :=
  fun _ met => ⟨met, trivial⟩

theorem Within.imp {act : Act σ α} (first : Within ready act good allowed) {better : α → Prop}
    (answers : ∀ answer, good answer → better answer)
    (faults : ∀ fault, allowed fault → tolerated fault) : Within ready act better tolerated := by
  intro stage met
  obtain ⟨kept, fair⟩ := first stage met
  refine ⟨kept, ?_⟩
  cases ended : (runOn act stage).1 with
  | ok answer => exact answers answer (ended ▸ fair :)
  | error fault => exact faults fault (ended ▸ fair :)

theorem Within.keeps {act : Act σ α} (first : Within ready act good allowed) : Keeps ready act :=
  fun stage met => ⟨(first stage met).1, fun _ _ => trivial⟩

theorem Within.bind {act : Act σ α} {next : α → Act σ β} (first : Within ready act good allowed)
    (rest : ∀ value, good value → Within ready (next value) fine allowed) :
    Within ready (act >>= next) fine allowed := by
  intro stage met
  obtain ⟨kept, fair⟩ := first stage met
  cases ended : (runOn act stage).1 with
  | error fault =>
    rw [runOn_bind_of_error ended]
    exact ⟨kept, (ended ▸ fair :)⟩
  | ok value =>
    rw [runOn_bind_of_ok ended]
    exact rest value (ended ▸ fair :) _ kept

/-- An attempt goes on from a good answer or from an allowed fault. -/
theorem Within.attempt_bind {act : Act σ α} {next : Except Fault α → Act σ β}
    (first : Within ready act good tolerated)
    (rest : ∀ outcome, Fair good tolerated outcome → Within ready (next outcome) fine allowed) :
    Within ready (attempt act >>= next) fine allowed := by
  intro stage met
  obtain ⟨kept, fair⟩ := first stage met
  rw [runOn_bind, runOn_attempt]
  exact rest _ fair _ kept

theorem Within.mapM {act : α → Act σ β} {items : List α}
    (each : ∀ item ∈ items, Within ready (act item) fine allowed) :
    Within ready (items.mapM act) (fun _ => True) allowed := by
  induction items with
  | nil => exact within_pure trivial
  | cons item others ih =>
    rw [List.mapM_cons]
    have rest := ih fun other member => each other (List.mem_cons_of_mem item member)
    exact (each item List.mem_cons_self).bind fun _ _ => rest.bind fun _ _ => within_pure trivial

end CatalogDelta.Act
