import CatalogDelta.Proofs.Scan.Exchange

/-!
# Acts that converse

The outside may keep a record of what has been exchanged. `Act.Converses` says what an act adds to
the record and how this determines its answer: either the talk is calm and stands in a relation to
the answer, or its last exchange ends the act with a fault. The rules follow the ways in which acts
are composed.
-/

namespace CatalogDelta.Act

variable {σ π α β : Type} {heard : σ → List Exchange} {ready : σ → Prop}

/-- Wherever the outside meets a condition, the act is one sound exchange: it adds its answer to the
record, and it keeps the condition and a part of the outside. -/
def Speaks (heard : σ → List Exchange) (base : σ → Prop) (kept : σ → π) (act : Act σ α)
    (exchange : Except Fault α → Exchange) : Prop :=
  ∀ stage : Stage σ, base stage.outside →
    heard (runOn act stage).2.outside = heard stage.outside ++ [exchange (runOn act stage).1] ∧
      base (runOn act stage).2.outside ∧ kept (runOn act stage).2.outside = kept stage.outside ∧
      (exchange (runOn act stage).1).Sound

/-- The talk is one exchange, sound and not lost. -/
def Said (exchange : Except Fault α → Exchange) (talk : List Exchange) (answer : Except Fault α) :
    Prop :=
  talk = [exchange answer] ∧ (exchange answer).Sound ∧ (exchange answer).loss? = none

/-- A talk settles an answer: it is calm and stands in the relation to the answer, or it is lost
with the fault that is the answer. -/
def Settles (talk : List Exchange) (answer : Except Fault α)
    (after : List Exchange → Except Fault α → Prop) : Prop :=
  (Calm talk ∧ after talk answer) ∨ ∃ fault, answer = .error fault ∧ Lost talk fault

/-- Wherever the outside meets the condition, the act keeps the condition and adds a talk to the
record that settles its answer. -/
def Converses (heard : σ → List Exchange) (ready : σ → Prop) (act : Act σ α)
    (after : List Exchange → Except Fault α → Prop) : Prop :=
  ∀ stage : Stage σ, ready stage.outside → ∃ talk,
    heard (runOn act stage).2.outside = heard stage.outside ++ talk ∧
      ready (runOn act stage).2.outside ∧ Settles talk (runOn act stage).1 after

variable {after : List Exchange → Except Fault α → Prop}

/-- What settles the answer of a continuation settles that of the whole, after a calm talk. -/
theorem Settles.prepend {talk more : List Exchange} {answer : Except Fault α} (calm : Calm talk)
    (settled : Settles more answer fun more answer => after (talk ++ more) answer) :
    Settles (talk ++ more) answer after := by
  rcases settled with ⟨still, holds⟩ | ⟨fault, failed, lost⟩
  · exact .inl ⟨calm.append still, holds⟩
  · exact .inr ⟨fault, failed, calm.append_lost lost⟩

/-- An act that changes nothing outside and has one answer says nothing. -/
theorem converses_quiet {act : Act σ α} {answer : Except Fault α}
    (quiet : ∀ stage : Stage σ, (runOn act stage).1 = answer ∧
      (runOn act stage).2.outside = stage.outside)
    (holds : after [] answer) : Converses heard ready act after := by
  intro stage met
  obtain ⟨given, same⟩ := quiet stage
  rw [given, same]
  refine ⟨[], (List.append_nil _).symm, met, .inl ⟨?_, holds⟩⟩
  exact fun _ member => absurd member List.not_mem_nil

theorem converses_pure (value : α) (holds : after [] (.ok value)) :
    Converses heard ready (pure value) after :=
  converses_quiet (fun _ => ⟨rfl, rfl⟩) holds

theorem converses_throw (fault : Fault) (holds : after [] (.error fault)) :
    Converses heard ready (throw fault) after :=
  converses_quiet (fun _ => ⟨rfl, rfl⟩) holds

theorem Converses.imp {act : Act σ α} {other : List Exchange → Except Fault α → Prop}
    (first : Converses heard ready act after)
    (weaker : ∀ talk answer, after talk answer → other talk answer) :
    Converses heard ready act other := by
  intro stage met
  obtain ⟨talk, added, kept, settled⟩ := first stage met
  refine ⟨talk, added, kept, ?_⟩
  rcases settled with ⟨calm, holds⟩ | lost
  · exact .inl ⟨calm, weaker _ _ holds⟩
  · exact .inr lost

/-- The talk of two acts in a row is that of the first and then that of the second. -/
theorem Converses.bind {act : Act σ α} {next : α → Act σ β}
    {done : List Exchange → Except Fault β → Prop} (first : Converses heard ready act after)
    (rest : ∀ talk value, after talk (.ok value) →
      Converses heard ready (next value) fun more answer => done (talk ++ more) answer)
    (stops : ∀ talk fault, after talk (.error fault) → done talk (.error fault)) :
    Converses heard ready (act >>= next) done := by
  intro stage met
  obtain ⟨talk, added, kept, settled⟩ := first stage met
  cases given : (runOn act stage).1 with
  | error fault =>
    rw [runOn_bind_of_error given]
    rw [given] at settled
    refine ⟨talk, added, kept, ?_⟩
    rcases settled with ⟨calm, holds⟩ | ⟨cause, failed, lost⟩
    · exact .inl ⟨calm, stops talk fault holds⟩
    · exact .inr ⟨fault, rfl, (Except.error.inj failed) ▸ lost⟩
  | ok value =>
    rw [runOn_bind_of_ok given]
    rw [given] at settled
    rcases settled with ⟨calm, holds⟩ | ⟨fault, failed, _⟩
    · obtain ⟨more, addedMore, stillKept, settledMore⟩ := rest talk value holds _ kept
      rw [added, List.append_assoc] at addedMore
      exact ⟨talk ++ more, addedMore, stillKept, settledMore.prepend calm⟩
    · contradiction

/-- An attempt passes on what ends the act, and goes on from every other answer. -/
theorem Converses.attempt_bind {act : Act σ α} {next : Except Fault α → Act σ β}
    {done : List Exchange → Except Fault β → Prop} (first : Converses heard ready act after)
    (rest : ∀ talk answer, after talk answer →
      Converses heard ready (next answer) fun more result => done (talk ++ more) result)
    (passes : ∀ fault : Fault, fault.kind.isA .connectionFailure = true →
      next (.error fault) = throw fault) :
    Converses heard ready (Act.attempt act >>= next) done := by
  intro stage met
  obtain ⟨talk, added, kept, settled⟩ := first stage met
  rw [runOn_bind, runOn_attempt]
  rcases settled with ⟨calm, holds⟩ | ⟨fault, failed, lost⟩
  · obtain ⟨more, addedMore, stillKept, settledMore⟩ := rest talk _ holds _ kept
    rw [added, List.append_assoc] at addedMore
    exact ⟨talk ++ more, addedMore, stillKept, settledMore.prepend calm⟩
  · have ends : fault.kind.isA .connectionFailure = true := by
      obtain ⟨_, last, _, _, loss⟩ := lost
      exact Exchange.isA_of_loss? loss
    simp only [failed, passes fault ends, runOn_throw]
    exact ⟨talk, added, kept, .inr ⟨fault, rfl, lost⟩⟩

/-- The act answers, and the answer stands in a relation to the talk. -/
def Answered (told : List Exchange → α → Prop) (talk : List Exchange) (answer : Except Fault α) :
    Prop :=
  ∃ value, answer = .ok value ∧ told talk value

theorem Converses.bind_answer {act : Act σ α} {next : α → Act σ β}
    {told : List Exchange → α → Prop} {done : List Exchange → Except Fault β → Prop}
    (first : Converses heard ready act (Answered told))
    (rest : ∀ talk value, told talk value →
      Converses heard ready (next value) fun more answer => done (talk ++ more) answer) :
    Converses heard ready (act >>= next) done := by
  refine first.bind ?_ ?_
  · rintro talk value ⟨_, same, holds⟩
    obtain rfl := Except.ok.inj same
    exact rest talk value holds
  · rintro talk fault ⟨_, failed, _⟩
    contradiction

/-- What remains of an act says nothing and answers for the talk so far. -/
theorem converses_answered {told : List Exchange → α → Prop} {talk : List Exchange} {value : α}
    (holds : told talk value) :
    Converses heard ready (pure value) fun more answer => Answered told (talk ++ more) answer := by
  refine converses_pure value ⟨value, rfl, ?_⟩
  rw [List.append_nil]
  exact holds

/-- What says nothing and cannot fail leaves the talk to what follows it. -/
theorem Converses.after_quiet {act : Act σ β} {next : β → Act σ α} {value : β}
    (quiet : ∀ stage : Stage σ, (runOn act stage).1 = .ok value ∧
      (runOn act stage).2.outside = stage.outside)
    (rest : Converses heard ready (next value) after) :
    Converses heard ready (act >>= next) after := by
  have first : Converses heard ready act
      (Answered fun talk answer => talk = [] ∧ answer = value) :=
    converses_quiet quiet ⟨value, rfl, rfl, rfl⟩
  refine first.bind_answer ?_
  rintro _ _ ⟨rfl, rfl⟩
  exact rest

theorem Converses.after_note {next : Unit → Act σ α} (level : Level) (author message : String)
    (rest : Converses heard ready (next ()) after) :
    Converses heard ready (note level author message >>= next) after :=
  .after_quiet (fun _ => ⟨rfl, rfl⟩) rest

theorem Converses.after_record {next : Unit → Act σ α} (entry : Entry)
    (rest : Converses heard ready (next ()) after) :
    Converses heard ready (record entry >>= next) after :=
  .after_quiet (fun _ => ⟨rfl, rfl⟩) rest

theorem Converses.after_settle {next : β → Act σ α} {settled : Except Fault β} {value : β}
    (given : settled = .ok value) (rest : Converses heard ready (next value) after) :
    Converses heard ready (settle settled >>= next) after := by
  refine .after_quiet (fun stage => ?_) rest
  rw [runOn_settle]
  exact ⟨given, rfl⟩

/-- An exchange that is lost, if it is, with the fault that is its answer. -/
theorem Speaks.converses {base : σ → Prop} {kept : σ → π} {act : Act σ α}
    {exchange : Except Fault α → Exchange} (speaks : Speaks heard base kept act exchange)
    (held : π → Prop)
    (ends : ∀ answer fault, (exchange answer).loss? = some fault → answer = .error fault) :
    Converses heard (fun outside => base outside ∧ held (kept outside)) act (Said exchange) := by
  intro stage met
  obtain ⟨added, still, same, sound⟩ := speaks stage met.1
  refine ⟨_, added, ⟨still, ?_⟩, ?_⟩
  · rw [same]
    exact met.2
  · cases lost : (exchange (runOn act stage).1).loss? with
    | none =>
      refine .inl ⟨fun other member => ?_, rfl, sound, lost⟩
      rw [List.mem_singleton.mp member, lost]
    | some fault =>
      refine .inr ⟨fault, ends _ fault lost, [], _, rfl, ?_, lost⟩
      exact fun _ member => absurd member List.not_mem_nil

end CatalogDelta.Act
