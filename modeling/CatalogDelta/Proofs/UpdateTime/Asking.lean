import CatalogDelta.Proofs.UpdateTime.Stamp

/-!
# Asking storage

To look up an entity is first to gather what storage shows of its location, then to read the time of
what is shown, and last to say what comes of it. Only the first step meets the outside.
-/

namespace CatalogDelta.Storage

open Act

variable {σ : Type} (storage : Storage σ) (source : Nat) (options : List (String × Data))
  (entity : Entity)

/-- What is known of a path says that it is a directory. -/
def isDirectory (entries : List (String × Data)) : Bool :=
  ((OrderedMap.get? "type" entries).getD .null).isText "directory"

/-- Ask a system what it knows of a location. -/
def question (location : String) : Act σ Shown := do
  let protocol := protocolOf location
  if !(← storage.isThere protocol location) then throw (notThere entity location)
  match ← storage.info protocol location with
  | .map entries =>
    if isDirectory entries then
      return ⟨entries, some (← Act.settle (← storage.children protocol location).items)⟩
    else return ⟨entries, none⟩
  | other => throw (.noMember other "get")

/-- Gather what storage shows of a location. -/
def gather (location : String) : Act σ Shown := do
  storage.ensure source options (protocolOf location)
  storage.question entity location

/-- Ask for the time of the location of an entity, whatever the location is. -/
def asked : Act σ (Option Int) :=
  match entity.location with
  | .text path => storage.ask source options entity path
  | other => storage.askOdd source options other

/-- What is said of the answer for an entity that has a location. -/
def answerFor (entity : Entity) : Except Fault (Option Int) → Except Fault Int
  | .ok (some millis) => .ok millis
  | .ok none => .error (noTime entity entity.location.shown)
  | .error fault =>
    if readingKinds.any fault.kind.isA then .error (unreadable entity entity.location fault)
    else .error fault

theorem isTruthy_text {path : String} (present : path ≠ "") : (Data.text path).isTruthy = true := by
  rw [Data.isTruthy, Bool.not_eq_true', Bool.eq_false_iff, ne_eq, String.isEmpty_iff]
  exact present

theorem settle_time (entries : List (String × Data)) (children : List Data) :
    (do
      match ← Act.settle (newest none children) with
      | some millis => return some millis
      | none => Act.settle (timeOf entries) : Act σ (Option Int)) =
      Act.settle (Shown.time ⟨entries, some children⟩) := by
  unfold Shown.time
  dsimp only [Option.getD_some]
  cases newest none children with
  | error fault => rfl
  | ok best => cases best <;> rfl

theorem ask_eq (location : String) :
    storage.ask source options entity location =
      storage.gather source options entity location >>= fun shown => Act.settle shown.time := by
  unfold ask gather question isDirectory
  simp only [bind_assoc]
  refine bind_congr fun _ => bind_congr fun there => ?_
  cases there with
  | false => rfl
  | true =>
    simp only [Bool.not_true, Bool.false_eq_true, ↓reduceIte, bind_assoc]
    refine bind_congr fun known => ?_
    cases known with
    | map entries =>
      dsimp only
      split
      · simp only [bind_assoc, pure_bind]
        refine bind_congr fun listed => bind_congr fun children => ?_
        exact settle_time entries children
      · rfl
    | null | bool | int | float | text | list | moment | span => rfl

/-- What comes of a look-up is what is said of the answer, and saying it changes nothing outside. -/
theorem runOn_lookUp (placed : entity.location.isTruthy = true) (stage : Stage σ) :
    (runOn (storage.lookUp source options entity) stage).1 =
        answerFor entity (runOn (storage.asked source options entity) stage).1 ∧
      (runOn (storage.lookUp source options entity) stage).2.outside =
        (runOn (storage.asked source options entity) stage).2.outside := by
  unfold lookUp asked
  simp only [placed, Bool.not_true, Bool.false_eq_true, ↓reduceIte, runOn_bind, runOn_attempt]
  generalize runOn _ stage = ended
  rcases ended with ⟨fault | _ | millis, after⟩
  · dsimp only [answerFor]
    split <;> exact ⟨rfl, rfl⟩
  · exact ⟨rfl, rfl⟩
  · exact ⟨rfl, rfl⟩

/-- Nothing is asked about an entity without a location. -/
theorem runOn_lookUp_of_nowhere (nowhere : entity.location.isTruthy = false) (stage : Stage σ) :
    runOn (storage.lookUp source options entity) stage = (.error (noLocation entity), stage) := by
  unfold lookUp
  simp only [nowhere, Bool.not_false, ↓reduceIte]
  rfl

end CatalogDelta.Storage
