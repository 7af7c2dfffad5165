import CatalogDelta.Act

/-!
# What an act answers under a condition

`Act.Gives` says that an act ends in one answer on every stage whose outside meets a condition, and
that the condition holds afterwards. The rules below follow the ways in which acts are composed, so
that the answer of a long act is computed from the answers of its parts.
-/

namespace CatalogDelta.Act

variable {σ α β : Type}

@[simp] theorem runOn_view (part : σ → α) (stage : Stage σ) :
    runOn (view part) stage = (.ok (part stage.outside), stage) := rfl

@[simp] theorem runOn_change (step : σ → σ) (stage : Stage σ) :
    runOn (change step) stage = (.ok (), { stage with outside := step stage.outside }) := rfl

@[simp] theorem runOn_note (level : Level) (author message : String) (stage : Stage σ) :
    runOn (note level author message) stage =
      (.ok (), { stage with journal := stage.journal ++ [⟨level, author, message, []⟩] }) := rfl

/-- What a sequence answers comes from an answer of its first part. -/
theorem exists_of_bind_eq_ok {ε α β : Type} {first : Except ε α} {next : α → Except ε β}
    {result : β} (given : first >>= next = .ok result) :
    ∃ value, first = .ok value ∧ next value = .ok result := by
  cases first with
  | error _ => contradiction
  | ok value => exact ⟨value, rfl, given⟩

/-- A sequence fails with its first part, or after it with what follows. -/
theorem bind_eq_error_iff {ε α β : Type} {first : Except ε α} {next : α → Except ε β} {cause : ε} :
    first >>= next = .error cause ↔
      first = .error cause ∨ ∃ value, first = .ok value ∧ next value = .error cause := by
  cases first with
  | error other =>
    refine ⟨fun failed => .inl ?_, ?_⟩
    · cases failed
      rfl
    · rintro (same | ⟨_, given, -⟩)
      · cases same
        rfl
      · exact nomatch given
  | ok value =>
    refine ⟨fun failed => .inr ⟨value, rfl, failed⟩, ?_⟩
    rintro (same | ⟨_, given, failed⟩)
    · exact nomatch same
    · cases given
      exact failed

/-- A list is read exactly if each of its items is. -/
theorem exists_mapM_iff {ε α β : Type} {read : α → Except ε β} {items : List α} :
    (∃ found, items.mapM read = .ok found) ↔ ∀ item ∈ items, ∃ found, read item = .ok found := by
  induction items with
  | nil => exact iff_of_true ⟨[], rfl⟩ fun _ member => absurd member List.not_mem_nil
  | cons item others ih =>
    rw [List.mapM_cons, List.forall_mem_cons, ← ih]
    constructor
    · rintro ⟨found, given⟩
      obtain ⟨first, firstRead, given⟩ := exists_of_bind_eq_ok given
      obtain ⟨rest, restRead, -⟩ := exists_of_bind_eq_ok given
      exact ⟨⟨first, firstRead⟩, ⟨rest, restRead⟩⟩
    · rintro ⟨⟨first, firstRead⟩, ⟨rest, restRead⟩⟩
      rw [firstRead, restRead]
      exact ⟨_, rfl⟩

theorem mapM_map_eq_ok {ε α β γ : Type} {write : α → β} {read : β → Except ε γ} {found : α → γ}
    (back : ∀ item, read (write item) = .ok (found item)) (items : List α) :
    (items.map write).mapM read = .ok (items.map found) := by
  induction items with
  | nil => rfl
  | cons item others ih =>
    rw [List.map_cons, List.mapM_cons, back, ih]
    rfl

theorem mapError_bind {ε ε' α β : Type} (change : ε → ε') (first : Except ε α)
    (next : α → Except ε β) :
    (first >>= next).mapError change =
      first.mapError change >>= fun value => (next value).mapError change := by
  cases first <;> rfl

theorem mapError_eq_ok_iff {ε ε' α : Type} {change : ε → ε'} {found : Except ε α} {value : α} :
    found.mapError change = .ok value ↔ found = .ok value := by
  cases found with
  | ok other =>
    change (Except.ok other : Except ε' α) = .ok value ↔ _
    rw [Except.ok.injEq, Except.ok.injEq]
  | error fault => exact ⟨nofun, nofun⟩

theorem map_eq_error_iff {ε α β : Type} {change : α → β} {found : Except ε α} {cause : ε} :
    change <$> found = .error cause ↔ found = .error cause := by
  cases found with
  | ok value => exact ⟨nofun, nofun⟩
  | error other =>
    change (Except.error other : Except ε β) = .error cause ↔ _
    rw [Except.error.injEq, Except.error.injEq]

/-- A list is not read exactly if an item is not, after others that are. -/
theorem mapM_eq_error_iff {ε α β : Type} {read : α → Except ε β} {items : List α} {cause : ε} :
    items.mapM read = .error cause ↔ ∃ before item after, items = before ++ item :: after ∧
      (∀ earlier ∈ before, ∃ found, read earlier = .ok found) ∧ read item = .error cause := by
  induction items with
  | nil =>
    refine ⟨nofun, ?_⟩
    rintro ⟨before, item, after, same, -, -⟩
    exact absurd same.symm (List.append_ne_nil_of_right_ne_nil _ (List.cons_ne_nil _ _))
  | cons first others ih =>
    rw [List.mapM_cons]
    cases found : read first with
    | error other =>
      have stops : (.error other : Except ε (List β)) = .error cause ↔ read first = .error cause := by
        rw [found, Except.error.injEq, Except.error.injEq]
      refine stops.trans ?_
      constructor
      · exact fun failed => ⟨[], first, others, rfl, nofun, failed⟩
      · rintro ⟨before, item, after, same, fine, failed⟩
        rcases List.cons_eq_append_iff.mp same with ⟨rfl, same⟩ | ⟨more, rfl, -⟩
        · obtain ⟨rfl, -⟩ := List.cons.inj same
          exact failed
        · obtain ⟨value, read⟩ := fine first List.mem_cons_self
          exact nomatch found.symm.trans read
    | ok value =>
      have goes : (do let rest ← others.mapM read; pure (value :: rest)) = .error cause ↔
          others.mapM read = .error cause := by
        rw [bind_pure_comp, map_eq_error_iff]
      refine goes.trans (ih.trans ?_)
      constructor
      · rintro ⟨before, item, after, rfl, fine, failed⟩
        refine ⟨first :: before, item, after, rfl, ?_, failed⟩
        exact List.forall_mem_cons.mpr ⟨⟨value, found⟩, fine⟩
      · rintro ⟨before, item, after, same, fine, failed⟩
        rcases List.cons_eq_append_iff.mp same with ⟨rfl, same⟩ | ⟨more, rfl, rest⟩
        · obtain ⟨rfl, -⟩ := List.cons.inj same
          exact nomatch found.symm.trans failed
        · exact ⟨more, item, after, rest, (List.forall_mem_cons.mp fine).2, failed⟩

/-- What follows an answer goes on from the stage after it. -/
theorem runOn_bind_of_ok {act : Act σ α} {value : α} {stage : Stage σ}
    (given : (runOn act stage).1 = .ok value) (next : α → Act σ β) :
    runOn (act >>= next) stage = runOn (next value) (runOn act stage).2 := by
  rw [runOn_bind]
  rcases ended : runOn act stage with ⟨outcome, after⟩
  rw [ended] at given
  subst given
  rfl

theorem runOn_bind_of_error {act : Act σ α} {fault : Fault} {stage : Stage σ}
    (given : (runOn act stage).1 = .error fault) (next : α → Act σ β) :
    runOn (act >>= next) stage = (.error fault, (runOn act stage).2) := by
  rw [runOn_bind]
  rcases ended : runOn act stage with ⟨outcome, after⟩
  rw [ended] at given
  subst given
  rfl

/-- Wherever the outside meets the condition, the act ends in the answer and keeps the condition. -/
def Gives (ready : σ → Prop) (act : Act σ α) (answer : Except Fault α) : Prop :=
  ∀ stage : Stage σ, ready stage.outside →
    (runOn act stage).1 = answer ∧ ready (runOn act stage).2.outside

/-- Wherever the outside meets the first condition, the act ends in an answer, and the answer and
the outside after it meet the second. -/
def Ends (before : σ → Prop) (act : Act σ α) (after : α → σ → Prop) : Prop :=
  ∀ stage : Stage σ, before stage.outside →
    ∃ answer, (runOn act stage).1 = .ok answer ∧ after answer (runOn act stage).2.outside

/-- Wherever the outside meets the condition, the act ends in an answer and keeps the condition. -/
def Returns (ready : σ → Prop) (act : Act σ α) : Prop := Ends ready act fun _ => ready

/-- An answer, unless a fault comes before it. -/
def verdict : Option Fault → α → Except Fault α
  | none, answer => .ok answer
  | some fault, _ => .error fault

@[simp] theorem verdict_none (answer : α) : verdict none answer = .ok answer := rfl

@[simp] theorem verdict_some (fault : Fault) (answer : α) :
    verdict (some fault) answer = .error fault := rfl

theorem verdict_eq_ok_iff {fault : Option Fault} {answer result : α} :
    verdict fault answer = .ok result ↔ fault = none ∧ answer = result := by
  cases fault with
  | none => simp
  | some fault => simp

theorem verdict_eq_error_iff {fault : Option Fault} {answer : α} {cause : Fault} :
    verdict fault answer = .error cause ↔ fault = some cause := by
  cases fault with
  | none => simp
  | some fault => simp

variable {ready : σ → Prop}

theorem gives_pure (answer : α) : Gives ready (pure answer) (.ok answer) :=
  fun _ met => ⟨rfl, met⟩

theorem gives_throw (fault : Fault) : Gives ready (throw fault : Act σ α) (.error fault) :=
  fun _ met => ⟨rfl, met⟩

theorem gives_settle (settled : Except Fault α) : Gives ready (settle settled) settled := by
  intro stage met
  rw [runOn_settle]
  exact ⟨rfl, met⟩

theorem gives_note (level : Level) (author message : String) :
    Gives ready (note level author message) (.ok ()) :=
  fun _ met => ⟨rfl, met⟩

theorem gives_record (entry : Entry) : Gives ready (record entry) (.ok ()) :=
  fun _ met => ⟨rfl, met⟩

/-- What follows an answer decides. -/
theorem Gives.bind {act : Act σ α} {next : α → Act σ β} {value : α} {answer : Except Fault β}
    (first : Gives ready act (.ok value)) (rest : Gives ready (next value) answer) :
    Gives ready (act >>= next) answer := by
  intro stage met
  obtain ⟨given, kept⟩ := first stage met
  rw [runOn_bind_of_ok given]
  exact rest _ kept

/-- A fault ends an act. -/
theorem Gives.bind_error {act : Act σ α} {next : α → Act σ β} {fault : Fault}
    (first : Gives ready act (.error fault)) : Gives ready (act >>= next) (.error fault) := by
  intro stage met
  obtain ⟨given, kept⟩ := first stage met
  rw [runOn_bind_of_error given]
  exact ⟨rfl, kept⟩

/-- The first fault of two acts in a row is the fault of both. -/
theorem Gives.bind_verdict {act : Act σ α} {next : α → Act σ β} {fault later : Option Fault}
    {value : α} {answer : β} (first : Gives ready act (verdict fault value))
    (rest : Gives ready (next value) (verdict later answer)) :
    Gives ready (act >>= next) (verdict (fault.or later) answer) := by
  cases fault with
  | none => exact first.bind rest
  | some fault => exact first.bind_error

/-- An act that never fails adds no fault to what comes before it. -/
theorem Gives.bind_ok {act : Act σ α} {next : α → Act σ β} {fault : Option Fault} {value : α}
    {answer : β} (first : Gives ready act (verdict fault value))
    (rest : Gives ready (next value) (.ok answer)) :
    Gives ready (act >>= next) (verdict fault answer) := by
  cases fault with
  | none => exact first.bind rest
  | some fault => exact first.bind_error

theorem Returns.bind {act : Act σ α} {next : α → Act σ β} {answer : Except Fault β}
    (first : Returns ready act) (rest : ∀ value, Gives ready (next value) answer) :
    Gives ready (act >>= next) answer := by
  intro stage met
  obtain ⟨value, given, kept⟩ := first stage met
  rw [runOn_bind_of_ok given]
  exact rest value _ kept

/-- An attempt turns the fault of an act into an answer. -/
theorem Gives.attempt {act : Act σ α} {answer : Except Fault α} (given : Gives ready act answer) :
    Gives ready (attempt act) (.ok answer) := by
  intro stage met
  obtain ⟨ended, kept⟩ := given stage met
  rw [runOn_attempt, ended]
  exact ⟨rfl, kept⟩

/-- Acts over the members of a list answer one by one up to the first fault. -/
theorem Gives.mapM {act : α → Act σ β} {fault : α → Option Fault} {value : α → β}
    (each : ∀ item, Gives ready (act item) (verdict (fault item) (value item)))
    (items : List α) :
    Gives ready (items.mapM act) (verdict (items.findSome? fault) (items.map value)) := by
  induction items with
  | nil => exact gives_pure []
  | cons item others ih =>
    have step : Gives ready (List.mapM act (item :: others))
        (verdict ((fault item).or ((others.findSome? fault).or none))
          (value item :: others.map value)) := by
      rw [List.mapM_cons]
      exact (each item).bind_verdict (ih.bind_verdict (gives_pure _))
    rw [Option.or_none] at step
    rw [List.findSome?_cons]
    cases stopped : fault item with
    | none => simpa only [stopped, Option.none_or, List.map_cons] using step
    | some _ => simpa only [stopped, Option.some_or, List.map_cons] using step

section Ends

variable {before : σ → Prop} {after : β → σ → Prop}

theorem ends_pure (answer : α) : Returns before (pure answer) :=
  fun _ met => ⟨answer, rfl, met⟩

theorem ends_note (level : Level) (author message : String) :
    Returns before (note level author message) :=
  fun _ met => ⟨(), rfl, met⟩

theorem ends_change {step : σ → σ} {changed : σ → Prop}
    (leads : ∀ outside, before outside → changed (step outside)) :
    Ends before (change step) fun _ => changed :=
  fun stage met => ⟨(), rfl, leads stage.outside met⟩

theorem Ends.bind {act : Act σ α} {next : α → Act σ β} {between : α → σ → Prop}
    (first : Ends before act between) (rest : ∀ value, Ends (between value) (next value) after) :
    Ends before (act >>= next) after := by
  intro stage met
  obtain ⟨value, given, kept⟩ := first stage met
  rw [runOn_bind_of_ok given]
  exact rest value _ kept

/-- An attempt at an act that ends in an answer ends in that answer. -/
theorem Ends.attempt_bind {act : Act σ α} {between : α → σ → Prop}
    {next : Except Fault α → Act σ β} (first : Ends before act between)
    (rest : ∀ value, Ends (between value) (next (.ok value)) after) :
    Ends before (Act.attempt act >>= next) after := by
  intro stage met
  obtain ⟨value, given, kept⟩ := first stage met
  rw [runOn_bind, runOn_attempt, given]
  exact rest value _ kept

end Ends

end CatalogDelta.Act
