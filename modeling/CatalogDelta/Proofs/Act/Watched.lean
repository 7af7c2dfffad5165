import CatalogDelta.Proofs.Act.Gives
import CatalogDelta.Proofs.Scan.Exchange

/-!
# Acts under watch

A watched outside keeps a list of what is done on it: the leases that are opened, closed or refused,
and what is exchanged. `Act.Follows` says that an act on a watched outside ends as an act on the
outside itself does, leaves the same outside and the same journal, and adds deeds to the list that
stand in a relation to the answer. The rules follow the ways in which acts are composed.
-/

namespace CatalogDelta

/-- What is done in a scan. -/
inductive Deed where
  /-- No client is got. -/
  | refused (fault : Fault)
  | opened
  | said (exchange : Exchange)
  | closed

/-- What has been done, oldest first. -/
abbrev Deeds := List Deed

/-- An outside with what has been done on it. -/
structure Watched (σ : Type) where
  inner : σ
  deeds : Deeds := []

variable {σ α β : Type}

/-- A stage under watch, on which something has been done already. -/
def Stage.watched (stage : Stage σ) (deeds : Deeds) : Stage (Watched σ) where
  outside := ⟨stage.outside, deeds⟩
  journal := stage.journal

namespace Act

/-- Do an act on what is inside, and keep the deeds that its answer stands for. -/
def watched (act : Act σ α) (deeds : Except Fault α → Deeds) : Act (Watched σ) α :=
  ExceptT.mk fun stage =>
    let (answer, after) := runOn act { outside := stage.outside.inner, journal := stage.journal }
    (answer, after.watched (stage.outside.deeds ++ deeds answer))

/-- The watched act does what the plain one does, and what it adds to the deeds stands in a relation
to the answer. -/
def Follows (watching : Act (Watched σ) α) (plain : Act σ α)
    (after : Deeds → Except Fault α → Prop) : Prop :=
  ∀ (stage : Stage σ) (before : Deeds), ∃ done,
    runOn watching (stage.watched before) =
      ((runOn plain stage).1, (runOn plain stage).2.watched (before ++ done)) ∧
      after done (runOn plain stage).1

/-- Nothing is done, and the act does not fail. -/
def Silently (done : Deeds) (answer : Except Fault α) : Prop :=
  done = [] ∧ ∃ value, answer = .ok value

variable {watching : Act (Watched σ) α} {plain : Act σ α}
  {after : Deeds → Except Fault α → Prop} {final : Deeds → Except Fault β → Prop}

theorem follows_watched (act : Act σ α) (deeds : Except Fault α → Deeds) :
    Follows (act.watched deeds) act fun done answer => done = deeds answer :=
  fun _ _ => ⟨_, rfl, rfl⟩

/-- An act that does nothing to the outside adds no deeds. -/
theorem follows_quiet
    (quiet : ∀ (stage : Stage σ) (before : Deeds), runOn watching (stage.watched before) =
      ((runOn plain stage).1, (runOn plain stage).2.watched before))
    (holds : ∀ stage, after [] (runOn plain stage).1) : Follows watching plain after := by
  intro stage before
  refine ⟨[], ?_, holds stage⟩
  rw [quiet, List.append_nil]

theorem follows_pure (value : α) (holds : after [] (.ok value)) :
    Follows (pure value : Act (Watched σ) α) (pure value) after :=
  follows_quiet (fun _ _ => rfl) fun _ => holds

theorem follows_throw (fault : Fault) (holds : after [] (.error fault)) :
    Follows (throw fault : Act (Watched σ) α) (throw fault) after :=
  follows_quiet (fun _ _ => rfl) fun _ => holds

theorem follows_settle (settled : Except Fault α) :
    Follows (settle settled : Act (Watched σ) α) (settle settled)
      fun done answer => done = [] ∧ answer = settled := by
  cases settled with
  | ok value => exact follows_pure value ⟨rfl, rfl⟩
  | error fault => exact follows_throw fault ⟨rfl, rfl⟩

theorem follows_note (level : Level) (author message : String) :
    Follows (note level author message : Act (Watched σ) Unit) (note level author message)
      Silently :=
  follows_quiet (fun _ _ => rfl) fun _ => ⟨rfl, (), rfl⟩

theorem follows_record (entry : Entry) :
    Follows (record entry : Act (Watched σ) Unit) (record entry) Silently :=
  follows_quiet (fun _ _ => rfl) fun _ => ⟨rfl, (), rfl⟩

/-- What is looked at is what is inside. -/
theorem follows_view (part : σ → α) :
    Follows (view fun outside : Watched σ => part outside.inner) (view part) Silently :=
  follows_quiet (fun _ _ => rfl) fun _ => ⟨rfl, _, rfl⟩

theorem Follows.imp {other : Deeds → Except Fault α → Prop} (first : Follows watching plain after)
    (weaker : ∀ done answer, after done answer → other done answer) :
    Follows watching plain other := by
  intro stage before
  obtain ⟨done, same, holds⟩ := first stage before
  exact ⟨done, same, weaker _ _ holds⟩

/-- The deeds of two acts in a row are those of the first and then those of the second. -/
theorem Follows.bind {next : α → Act (Watched σ) β} {following : α → Act σ β}
    (first : Follows watching plain after)
    (rest : ∀ done value, after done (.ok value) →
      Follows (next value) (following value) fun more answer => final (done ++ more) answer)
    (fails : ∀ done fault, after done (.error fault) → final done (.error fault)) :
    Follows (watching >>= next) (plain >>= following) final := by
  intro stage before
  obtain ⟨done, same, holds⟩ := first stage before
  rw [runOn_bind, same]
  cases given : (runOn plain stage).1 with
  | error fault =>
    rw [given] at holds
    rw [runOn_bind_of_error given]
    exact ⟨done, rfl, fails done fault holds⟩
  | ok value =>
    rw [given] at holds
    rw [runOn_bind_of_ok given]
    obtain ⟨more, sameMore, holdsMore⟩ := rest done value holds _ (before ++ done)
    refine ⟨done ++ more, ?_, holdsMore⟩
    rw [← List.append_assoc]
    exact sameMore

/-- An attempt goes on from every answer. -/
theorem Follows.attempt_bind {next : Except Fault α → Act (Watched σ) β}
    {following : Except Fault α → Act σ β} (first : Follows watching plain after)
    (rest : ∀ done answer, after done answer →
      Follows (next answer) (following answer) fun more result => final (done ++ more) result) :
    Follows (attempt watching >>= next) (attempt plain >>= following) final := by
  have attempted : Follows (attempt watching) (attempt plain)
      fun done answer => ∃ outcome, answer = .ok outcome ∧ after done outcome := by
    intro stage before
    obtain ⟨done, same, holds⟩ := first stage before
    refine ⟨done, ?_, _, rfl, holds⟩
    rw [runOn_attempt, runOn_attempt, same]
  refine attempted.bind ?_ ?_
  · rintro done _ ⟨outcome, same, holds⟩
    obtain rfl := Except.ok.inj same
    exact rest done _ holds
  · rintro done fault ⟨outcome, failed, _⟩
    exact nomatch failed

/-- What is done silently leaves the deeds to what follows it. -/
theorem Follows.after_silent {act : Act (Watched σ) β} {silent : Act σ β}
    {next : β → Act (Watched σ) α} {following : β → Act σ α}
    (first : Follows act silent Silently)
    (rest : ∀ value, Follows (next value) (following value) after) :
    Follows (act >>= next) (silent >>= following) after := by
  refine first.bind ?_ ?_
  · rintro _ value ⟨rfl, _⟩
    exact rest value
  · rintro done fault ⟨_, _, failed⟩
    exact nomatch failed

theorem Follows.after_settle {settled : Except Fault β} {next : β → Act (Watched σ) α}
    {following : β → Act σ α}
    (rest : ∀ value, settled = .ok value → Follows (next value) (following value) after)
    (fails : ∀ fault, settled = .error fault → after [] (.error fault)) :
    Follows (settle settled >>= next) (settle settled >>= following) after := by
  refine (follows_settle settled).bind ?_ ?_
  · rintro _ value ⟨rfl, same⟩
    exact rest value same.symm
  · rintro _ fault ⟨rfl, same⟩
    exact fails fault same.symm

end Act
end CatalogDelta
