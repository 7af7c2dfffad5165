import CatalogDelta.Proofs.Act.Within
import CatalogDelta.Proofs.Scan.Specification
import CatalogDelta.Proofs.UpdateTime.Asking
import CatalogDelta.Proofs.UpdateTime.Replies

/-!
# Trouble with storage

Storage is in trouble if it says so in one of the ways that are understood, or if it shows something
unusable. Every trouble but one is reported as a missing update time. Main statement: a look-up ends
with another fault exactly if the first stamp that counts and is no finite number of milliseconds is
infinite.
-/

namespace CatalogDelta

open Act

namespace Storage

variable {σ : Type} {storage : Storage σ} {ready : σ → Prop} {source : Nat}
  {options : List (String × Data)} {entity : Entity}

/-- A fault by which storage says that it cannot be read. -/
def IsTrouble (fault : Fault) : Prop := readingKinds.any fault.kind.isA = true

/-- Storage says that it is in trouble, or gives answers of the right form. -/
structure Abides (storage : Storage σ) (ready : σ → Prop) : Prop where
  connect : ∀ protocol options,
    Within ready (storage.connect protocol options) (fun _ => True) IsTrouble
  remember : ∀ source protocol outside, ready outside →
    ready (storage.remember source protocol outside)
  isThere : ∀ protocol path, Within ready (storage.isThere protocol path) (fun _ => True) IsTrouble
  info : ∀ protocol path,
    Within ready (storage.info protocol path) (∃ entries, · = .map entries) IsTrouble
  children : ∀ protocol path,
    Within ready (storage.children protocol path) (∃ items, · = .list items) IsTrouble

/-- Storage with fixed replies abides by the rules if its replies do. -/
theorem Replying.abides {replies : Replies} {base : σ → Prop}
    {attempts : σ → List (String × List (String × Data))}
    (replying : storage.Replying replies base attempts)
    (connect : ∀ protocol options, Fair (fun _ => True) IsTrouble (replies.connect protocol options))
    (isThere : ∀ protocol path, Fair (fun _ => True) IsTrouble (replies.isThere protocol path))
    (info : ∀ protocol path,
      Fair (∃ entries, · = .map entries) IsTrouble (replies.info protocol path))
    (children : ∀ protocol path,
      Fair (∃ items, · = .list items) IsTrouble (replies.children protocol path)) :
    storage.Abides fun outside => ∃ books : Books, books.Hold storage base attempts outside where
  connect protocol options := by
    rintro stage ⟨books, holds⟩
    obtain ⟨given, held⟩ := replying.connect protocol options books stage holds
    exact ⟨⟨_, held⟩, given ▸ connect protocol options⟩
  remember := by
    rintro source protocol outside ⟨books, holds⟩
    exact ⟨_, replying.remember source protocol books outside holds⟩
  isThere protocol path := by
    rintro stage ⟨books, holds⟩
    obtain ⟨given, held⟩ := replying.isThere protocol path books stage holds
    exact ⟨⟨_, held⟩, given ▸ isThere protocol path⟩
  info protocol path := by
    rintro stage ⟨books, holds⟩
    obtain ⟨given, held⟩ := replying.info protocol path books stage holds
    exact ⟨⟨_, held⟩, given ▸ info protocol path⟩
  children protocol path := by
    rintro stage ⟨books, holds⟩
    obtain ⟨given, held⟩ := replying.children protocol path books stage holds
    exact ⟨⟨_, held⟩, given ▸ children protocol path⟩

/-- The first stamp that is no finite number of milliseconds is infinite. -/
def Shown.Overruns (shown : Shown) : Prop :=
  ∃ before seconds after, shown.stamps = before ++ seconds :: after ∧
    (∀ earlier ∈ before, Decimal.IsFinite (earlier * 1000)) ∧
    ∃ negative, Decimal.Reading.ofFloat (seconds * 1000) = .infinite negative

/-- A fault that is reported as a missing update time, or is one already. -/
def IsReported (fault : Fault) : Prop := IsTrouble fault ∨ fault.kind = .updateTimeNotFound

theorem millis_eq_overflow_iff {seconds : Float} :
    millis seconds = .error .overflow ↔
      ∃ negative, Decimal.Reading.ofFloat (seconds * 1000) = .infinite negative := by
  unfold millis
  cases Decimal.Reading.ofFloat (seconds * 1000) <;> simp

theorem Shown.overruns_iff {shown : Shown} :
    shown.Overruns ↔ shown.time.mapError Fault.kind = .error .overflow := by
  rw [shown.mapError_time, map_eq_error_iff, mapM_eq_error_iff, Overruns]
  simp only [exists_millis_iff, millis_eq_overflow_iff]

/-- A stamp that is no number at all is trouble; one that is too large is not. -/
theorem Shown.time_fair (shown : Shown) :
    Fair (fun _ => True) (fun fault => IsTrouble fault ∨ fault.kind = .overflow) shown.time := by
  have told := shown.mapError_time
  cases ended : shown.time with
  | ok time => trivial
  | error fault =>
    rw [ended] at told
    obtain ⟨_, seconds, _, -, -, failed⟩ :=
      mapM_eq_error_iff.mp (map_eq_error_iff.mp told.symm)
    unfold millis at failed
    change IsTrouble fault ∨ fault.kind = .overflow
    unfold IsTrouble
    cases reading : Decimal.Reading.ofFloat (seconds * 1000) with
    | finite negative size => rw [reading] at failed; contradiction
    | infinite negative => rw [reading] at failed; exact .inr (Except.error.inj failed).symm
    | notANumber =>
      rw [reading] at failed
      rw [← Except.error.inj failed]
      exact .inl (by decide)

theorem Abides.ensure (abides : storage.Abides ready)
    (once : OrderedMap.hasKey "protocol" options = false) (protocol : String) :
    Within ready (storage.ensure source options protocol) (fun _ => True) IsTrouble := by
  refine (returns_view _).within.bind fun connected _ => ?_
  cases connected with
  | true => exact within_pure trivial
  | false =>
    simp only [once, Bool.not_false, Bool.false_eq_true, ↓reduceIte]
    refine (abides.connect protocol options).bind fun _ _ => Returns.within ?_
    exact ends_change (abides.remember source protocol)

theorem Abides.gather (abides : storage.Abides ready)
    (once : OrderedMap.hasKey "protocol" options = false) (location : String) :
    Within ready (storage.gather source options entity location) (fun _ => True) IsReported := by
  have trouble : ∀ fault, IsTrouble fault → IsReported fault := fun _ => .inl
  have same {α : Type} {good : α → Prop} : ∀ answer, good answer → good answer := fun _ => id
  refine ((abides.ensure once _).imp same trouble).bind fun _ _ => ?_
  refine ((abides.isThere _ location).imp same trouble).bind fun there _ => ?_
  cases there with
  | false => exact within_throw (.inr (Fault.kind_updateTimeNotFound _ _ _ _))
  | true =>
    refine ((abides.info _ location).imp same trouble).bind ?_
    rintro _ ⟨entries, rfl⟩
    dsimp only
    split
    · refine ((abides.children _ location).imp same trouble).bind ?_
      rintro _ ⟨items, rfl⟩
      exact within_pure trivial
    · exact within_pure trivial

/-! ## Looking up -/

/-- What is shown of the location of an entity at a stage overruns. -/
def Overruns (storage : Storage σ) (source : Nat) (options : List (String × Data)) (entity : Entity)
    (stage : Stage σ) : Prop :=
  ∃ path shown, entity.location = .text path ∧ path ≠ "" ∧
    (runOn (storage.gather source options entity path) stage).1 = .ok shown ∧ shown.Overruns

theorem runOn_asked {path : String} (located : entity.location = .text path) (stage : Stage σ) :
    (runOn (storage.asked source options entity) stage).1 =
      (runOn (storage.gather source options entity path) stage).1 >>= Shown.time := by
  have asks : storage.asked source options entity = storage.ask source options entity path := by
    unfold asked
    rw [located]
  rw [asks, ask_eq, runOn_bind]
  rcases runOn (storage.gather source options entity path) stage with ⟨fault | shown, after⟩
  · rfl
  · exact congrArg Prod.fst (runOn_settle shown.time after)

/-- The outcome is a fault for a number that is too large. -/
def Overflows {α : Type} (outcome : Except Fault α) : Prop :=
  ∃ fault, outcome = .error fault ∧ fault.kind = .overflow

theorem not_overflows_ok {α : Type} (answer : α) : ¬ Overflows (.ok answer : Except Fault α) := by
  rintro ⟨_, same, -⟩
  contradiction

theorem overflows_iff {α : Type} {outcome : Except Fault α} :
    Overflows outcome ↔ outcome.mapError Fault.kind = .error .overflow := by
  cases outcome with
  | ok answer => exact iff_of_false (not_overflows_ok answer) fun same => nomatch same
  | error fault =>
    constructor
    · rintro ⟨_, same, overflow⟩
      rw [Except.error.inj same]
      exact congrArg Except.error overflow
    · exact fun same => ⟨fault, rfl, Except.error.inj same⟩

theorem not_overflows_of_kind {α : Type} {fault : Fault} (kind : fault.kind = .updateTimeNotFound) :
    ¬ Overflows (.error fault : Except Fault α) := by
  rintro ⟨_, same, overflow⟩
  rw [← Except.error.inj same, kind] at overflow
  contradiction

instance {α : Type} (outcome : Except Fault α) : Decidable (Overflows outcome) :=
  match outcome with
  | .ok answer => .isFalse (not_overflows_ok answer)
  | .error fault =>
    decidable_of_iff (fault.kind = .overflow)
      ⟨fun overflow => ⟨fault, rfl, overflow⟩,
        fun ⟨_, same, overflow⟩ => Except.error.inj same ▸ overflow⟩

/-- How a look-up may end: with a time, without one, or with an overflow. -/
def Ended : Except Fault Int → Prop :=
  Fair (fun _ => True) fun fault => fault.kind = .updateTimeNotFound ∨ fault.kind = .overflow

/-- What is reported is a missing time, and an overflow is passed on as it is. -/
theorem ended_answerFor (entity : Entity) {outcome : Except Fault (Option Int)}
    (fair : Fair (fun _ => True) (fun fault => IsReported fault ∨ fault.kind = .overflow) outcome) :
    Ended (answerFor entity outcome) ∧ (Overflows (answerFor entity outcome) ↔ Overflows outcome) := by
  cases outcome with
  | ok time =>
    cases time with
    | some millis =>
      exact ⟨trivial, iff_of_false (not_overflows_ok millis) (not_overflows_ok (some millis))⟩
    | none =>
      have kind : (noTime entity entity.location.shown).kind = .updateTimeNotFound :=
        Fault.kind_updateTimeNotFound _ _ _ _
      exact ⟨.inl kind, iff_of_false (not_overflows_of_kind kind) (not_overflows_ok none)⟩
  | error fault =>
    unfold answerFor
    dsimp only
    split
    · rename_i trouble
      have kind : (unreadable entity entity.location fault).kind = .updateTimeNotFound :=
        Fault.kind_updateTimeNotFound _ _ _ _
      refine ⟨.inl kind, iff_of_false (not_overflows_of_kind kind) ?_⟩
      rintro ⟨_, same, overflow⟩
      rw [Except.error.inj same, overflow] at trouble
      exact absurd trouble (by decide)
    · rename_i calm
      refine ⟨?_, ⟨fun ⟨_, same, overflow⟩ => ⟨fault, rfl, Except.error.inj same ▸ overflow⟩,
        fun ⟨_, same, overflow⟩ => ⟨fault, rfl, Except.error.inj same ▸ overflow⟩⟩⟩
      rcases fair with (trouble | kind) | overflow
      · exact absurd trouble calm
      · exact .inl kind
      · exact .inr overflow

/-- Gathering ends in a reported fault, or with something whose time may overflow. -/
theorem fair_time {gathered : Except Fault Shown} (fair : Fair (fun _ => True) IsReported gathered) :
    Fair (fun _ => True) (fun fault => IsReported fault ∨ fault.kind = .overflow)
        (gathered >>= Shown.time) ∧
      (Overflows (gathered >>= Shown.time) ↔ ∃ shown, gathered = .ok shown ∧ shown.Overruns) := by
  cases gathered with
  | error fault =>
    refine ⟨.inl fair, iff_of_false ?_ fun ⟨_, same, _⟩ => nomatch same⟩
    rintro ⟨_, same, overflow⟩
    have calm : ¬ IsReported fault := by
      rw [Except.error.inj same]
      unfold IsReported IsTrouble
      rw [overflow]
      decide
    exact calm fair
  | ok shown =>
    have told : Overflows (.ok shown >>= Shown.time) ↔ shown.Overruns :=
      overflows_iff.trans Shown.overruns_iff.symm
    refine ⟨?_, told.trans ⟨fun overruns => ⟨shown, rfl, overruns⟩, ?_⟩⟩
    · change Fair _ _ shown.time
      have fair := shown.time_fair
      cases ended : shown.time with
      | ok time => trivial
      | error fault =>
        rw [ended] at fair
        exact fair.imp_left .inl
    · rintro ⟨_, same, overruns⟩
      exact Except.ok.inj same ▸ overruns

/-- A location that is a text but not an empty one, or none at all. -/
theorem located_or_nowhere {location : Data} (placed : Placed location) :
    location.isTruthy = false ∨ ∃ path, location = .text path ∧ path ≠ "" := by
  cases placed with
  | nowhere => exact .inl rfl
  | text path =>
    by_cases empty : path = ""
    · subst empty
      exact .inl rfl
    · exact .inr ⟨path, rfl, empty⟩

/-- **A look-up fails for want of a time or because something overruns**, and for no other reason. -/
theorem Abides.lookUp (abides : storage.Abides ready)
    (once : OrderedMap.hasKey "protocol" options = false) (placed : Placed entity.location)
    (stage : Stage σ) (met : ready stage.outside) :
    Ended (runOn (storage.lookUp source options entity) stage).1 ∧
      (Overflows (runOn (storage.lookUp source options entity) stage).1 ↔
        storage.Overruns source options entity stage) := by
  rcases located_or_nowhere placed with nowhere | ⟨path, located, present⟩
  · have kind : (noLocation entity).kind = .updateTimeNotFound :=
      Fault.kind_updateTimeNotFound _ _ _ _
    rw [runOn_lookUp_of_nowhere _ _ _ _ nowhere]
    refine ⟨.inl kind, iff_of_false (not_overflows_of_kind kind) ?_⟩
    rintro ⟨path, _, located, present, -⟩
    rw [located, isTruthy_text present] at nowhere
    contradiction
  · have truthy : entity.location.isTruthy = true := located ▸ isTruthy_text present
    have gathered : Fair (fun _ => True) IsReported
        (runOn (storage.gather source options entity path) stage).1 :=
      (abides.gather once path stage met).2
    obtain ⟨fair, overflows⟩ := fair_time gathered
    obtain ⟨ended, same⟩ := ended_answerFor entity fair
    rw [(storage.runOn_lookUp _ _ _ truthy stage).1, runOn_asked located]
    refine ⟨ended, same.trans (overflows.trans ?_)⟩
    constructor
    · rintro ⟨shown, gathered, overruns⟩
      exact ⟨path, shown, located, present, gathered, overruns⟩
    · rintro ⟨_, shown, locatedToo, -, gathered, overruns⟩
      obtain rfl := Data.text.inj (located.symm.trans locatedToo)
      exact ⟨shown, gathered, overruns⟩

end Storage
end CatalogDelta
