import CatalogDelta.Proofs.Act.Gives

/-!
# What an act keeps, and what it may answer

`Act.Yields` says that an act keeps a condition on the outside however it ends, and that an answer
it gives is as stated. `Act.Leads` relates the outside before an act to how the act ends and to the
outside after it. The rules follow the ways in which acts are composed.
-/

namespace CatalogDelta.Act

variable {σ α β : Type} {ready : σ → Prop} {good : β → Prop} {middle : α → Prop}

/-- Wherever the outside meets the condition, the act keeps it, and its answer is good if it gives
one. -/
def Yields (ready : σ → Prop) (act : Act σ α) (good : α → Prop) : Prop :=
  ∀ stage : Stage σ, ready stage.outside →
    ready (runOn act stage).2.outside ∧
      ∀ answer, (runOn act stage).1 = .ok answer → good answer

/-- Wherever the outside meets the condition, the act keeps it. -/
def Keeps (ready : σ → Prop) (act : Act σ α) : Prop := Yields ready act fun _ => True

theorem yields_pure {answer : α} {good : α → Prop} (holds : good answer) :
    Yields ready (pure answer) good := by
  intro stage met
  refine ⟨met, fun given same => ?_⟩
  obtain rfl := Except.ok.inj same
  exact holds

theorem yields_throw (fault : Fault) (good : α → Prop) : Yields ready (throw fault) good :=
  fun _ met => ⟨met, fun _ same => nomatch same⟩

theorem yields_settle {settled : Except Fault α} {good : α → Prop}
    (holds : ∀ answer, settled = .ok answer → good answer) :
    Yields ready (settle settled) good := by
  intro stage met
  rw [runOn_settle]
  exact ⟨met, holds⟩

theorem keeps_pure (answer : α) : Keeps ready (pure answer) := yields_pure trivial

theorem keeps_throw (fault : Fault) : Keeps ready (throw fault : Act σ α) := yields_throw fault _

theorem keeps_settle (settled : Except Fault α) : Keeps ready (settle settled) :=
  yields_settle fun _ _ => trivial

theorem keeps_view (part : σ → α) : Keeps ready (view part) :=
  fun _ met => ⟨met, fun _ _ => trivial⟩

theorem keeps_note (level : Level) (author message : String) :
    Keeps ready (note level author message) :=
  fun _ met => ⟨met, fun _ _ => trivial⟩

theorem keeps_record (entry : Entry) : Keeps ready (record entry) :=
  fun _ met => ⟨met, fun _ _ => trivial⟩

theorem keeps_change {step : σ → σ} (still : ∀ outside, ready outside → ready (step outside)) :
    Keeps ready (change step) :=
  fun stage met => ⟨still stage.outside met, fun _ _ => trivial⟩

theorem Yields.imp {act : Act σ α} {good : α → Prop} (first : Yields ready act middle)
    (weaker : ∀ answer, middle answer → good answer) : Yields ready act good := by
  intro stage met
  obtain ⟨kept, holds⟩ := first stage met
  exact ⟨kept, fun answer given => weaker answer (holds answer given)⟩

/-- An act that always ends in an answer and keeps the condition keeps it. -/
theorem Returns.keeps {act : Act σ α} (returns : Returns ready act) : Keeps ready act := by
  intro stage met
  obtain ⟨answer, _, kept⟩ := returns stage met
  exact ⟨kept, fun _ _ => trivial⟩

theorem Gives.keeps {act : Act σ α} {answer : Except Fault α} (given : Gives ready act answer) :
    Keeps ready act :=
  fun stage met => ⟨(given stage met).2, fun _ _ => trivial⟩

theorem returns_get : Returns ready (get : Act σ (Stage σ)) := fun stage met => ⟨stage, rfl, met⟩

theorem returns_view (part : σ → α) : Returns ready (view part) :=
  fun stage met => ⟨part stage.outside, rfl, met⟩

theorem Yields.keeps {act : Act σ α} (first : Yields ready act middle) : Keeps ready act :=
  first.imp fun _ _ => trivial

theorem Yields.bind {act : Act σ α} {next : α → Act σ β} (first : Yields ready act middle)
    (rest : ∀ value, middle value → Yields ready (next value) good) :
    Yields ready (act >>= next) good := by
  intro stage met
  obtain ⟨kept, holds⟩ := first stage met
  cases ended : (runOn act stage).1 with
  | error fault =>
    rw [runOn_bind_of_error ended]
    exact ⟨kept, fun _ same => nomatch same⟩
  | ok value =>
    rw [runOn_bind_of_ok ended]
    exact rest value (holds value ended) _ kept

/-- Nothing need be known of an answer for what follows it to keep the condition. -/
theorem Keeps.bind {act : Act σ α} {next : α → Act σ β} (first : Keeps ready act)
    (rest : ∀ value, Yields ready (next value) good) : Yields ready (act >>= next) good :=
  Yields.bind first fun value _ => rest value

/-- Nothing follows a fault. -/
theorem yields_throw_bind (fault : Fault) (next : α → Act σ β) :
    Yields ready (throw fault >>= next) good := by
  intro stage met
  rw [runOn_bind, runOn_throw]
  exact ⟨met, fun _ same => nomatch same⟩

/-- An attempt goes on from an answer or from a fault. -/
theorem Yields.attempt_bind {act : Act σ α} {next : Except Fault α → Act σ β}
    (first : Yields ready act middle)
    (rest : ∀ value, middle value → Yields ready (next (.ok value)) good)
    (fails : ∀ fault, Yields ready (next (.error fault)) good) :
    Yields ready (attempt act >>= next) good := by
  intro stage met
  obtain ⟨kept, holds⟩ := first stage met
  rw [runOn_bind, runOn_attempt]
  cases ended : (runOn act stage).1 with
  | error fault => exact fails fault _ kept
  | ok value => exact rest value (holds value ended) _ kept

theorem Keeps.attempt_bind {act : Act σ α} {next : Except Fault α → Act σ β}
    (first : Keeps ready act) (rest : ∀ outcome, Yields ready (next outcome) good) :
    Yields ready (attempt act >>= next) good :=
  Yields.attempt_bind first (fun value _ => rest (.ok value)) fun fault => rest (.error fault)

/-- Acts over the members of a list answer with good answers only. -/
theorem Yields.mapM_of_mem {act : α → Act σ β} {items : List α}
    (each : ∀ item ∈ items, Yields ready (act item) good) :
    Yields ready (items.mapM act) fun answers => ∀ answer ∈ answers, good answer := by
  induction items with
  | nil => exact yields_pure fun _ member => absurd member List.not_mem_nil
  | cons item others ih =>
    rw [List.mapM_cons]
    have rest := ih fun other member => each other (List.mem_cons_of_mem item member)
    refine (each item List.mem_cons_self).bind fun value holds => rest.bind fun values hold =>
      yields_pure ?_
    intro answer member
    rcases List.mem_cons.mp member with rfl | later
    · exact holds
    · exact hold answer later

theorem Yields.mapM {act : α → Act σ β} (each : ∀ item, Yields ready (act item) good)
    (items : List α) :
    Yields ready (items.mapM act) fun answers => ∀ answer ∈ answers, good answer :=
  mapM_of_mem fun item _ => each item

theorem Keeps.forM {act : α → Act σ PUnit} (each : ∀ item, Keeps ready (act item))
    (items : List α) : Keeps ready (items.forM act) := by
  induction items with
  | nil => exact keeps_pure PUnit.unit
  | cons item others ih => exact (each item).bind fun _ => ih

section Leads

variable {before : σ → Prop} {between : Except Fault α → σ → Prop}
  {after : Except Fault β → σ → Prop}

/-- Wherever the outside meets the condition, the act ends with an outcome and an outside that stand
in the relation. -/
def Leads (before : σ → Prop) (act : Act σ α) (after : Except Fault α → σ → Prop) : Prop :=
  ∀ stage : Stage σ, before stage.outside →
    after (runOn act stage).1 (runOn act stage).2.outside

theorem Leads.bind {act : Act σ α} {next : α → Act σ β} (first : Leads before act between)
    (fails : ∀ fault outside, between (.error fault) outside → after (.error fault) outside)
    (rest : ∀ value, Leads (between (.ok value)) (next value) after) :
    Leads before (act >>= next) after := by
  intro stage met
  have reached := first stage met
  cases ended : (runOn act stage).1 with
  | error fault =>
    rw [ended] at reached
    rw [runOn_bind_of_error ended]
    exact fails fault _ reached
  | ok value =>
    rw [ended] at reached
    rw [runOn_bind_of_ok ended]
    exact rest value _ reached

theorem Keeps.leads {act : Act σ α} (keeps : Keeps ready act) : Leads ready act fun _ => ready :=
  fun stage met => (keeps stage met).1

/-- What an act keeps and yields is there for what follows it. -/
theorem Yields.bind_leads {act : Act σ α} {next : α → Act σ β} (first : Yields ready act middle)
    (fails : ∀ fault outside, ready outside → after (.error fault) outside)
    (rest : ∀ value, middle value → Leads ready (next value) after) :
    Leads ready (act >>= next) after := by
  intro stage met
  obtain ⟨kept, holds⟩ := first stage met
  cases ended : (runOn act stage).1 with
  | error fault =>
    rw [runOn_bind_of_error ended]
    exact fails fault _ kept
  | ok value =>
    rw [runOn_bind_of_ok ended]
    exact rest value (holds value ended) _ kept

end Leads

end CatalogDelta.Act
