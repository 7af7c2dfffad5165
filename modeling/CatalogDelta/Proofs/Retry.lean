import CatalogDelta.Proofs.Act.Yields
import CatalogDelta.Proofs.Decimal.Order
import CatalogDelta.Retry

/-!
# Calls made again

A call that fails with covered faults so many times before it settles on an answer gives that answer
if it may be made once more than it fails, whoever repeats it. The usual repeater is lawful. Main
statement: `call_gives`.
-/

namespace CatalogDelta

open Act

namespace Repeater

theorem larger_ofNat (first second : Nat) :
    larger (Float.ofNat first) (Float.ofNat second) = Float.ofNat (max first second) :=
  (Decimal.ofNat_max first second).symm

theorem smaller_ofNat (first second : Nat) :
    smaller (Float.ofNat first) (Float.ofNat second) = Float.ofNat (min first second) :=
  (Decimal.ofNat_min first second).symm

theorem attempt_bind_settle {σ α : Type} (call : Act σ α) : attempt call >>= settle = call := by
  funext stage
  change runOn (attempt call >>= settle) stage = runOn call stage
  rw [runOn_bind, runOn_attempt]
  exact runOn_settle _ _

/-- **The usual repeater does what is relied on.** -/
theorem usual_lawful : usual.Lawful where
  repeated_eq {σ α} repetition call := by
    change repeatedUpTo (repetition.limit - 1).toNat repetition call = _
    by_cases more : 1 < repetition.limit
    · obtain ⟨left, enough⟩ : ∃ left, (repetition.limit - 1).toNat = left + 1 :=
        Nat.exists_eq_succ_of_ne_zero (by omega)
      have rest : (repetition.later.limit - 1).toNat = left := by
        change (repetition.limit - 1 - 1).toNat = left
        omega
      simp only [enough, repeatedUpTo, more, true_and]
      congr 1
      funext outcome
      cases outcome with
      | ok answer => rfl
      | error fault =>
        change (if _ then do repetition.turn fault; repeatedUpTo left _ _ else _) =
          if _ then do
            repetition.turn fault
            repeatedUpTo (repetition.later.limit - 1).toNat _ _
          else _
        rw [rest]
    · have none : (repetition.limit - 1).toNat = 0 := by omega
      simp only [none, repeatedUpTo, more, false_and, ↓reduceIte]
      refine (attempt_bind_settle call).symm.trans (congrArg (attempt call >>= ·) ?_)
      funext outcome
      cases outcome with
      | ok answer => rfl
      | error fault => rfl
  doubling_eq backoff attempt := by
    have first : larger 0 (Float.ofNat backoff) = Float.ofNat backoff := by
      change larger (Float.ofNat 0) _ = _
      rw [larger_ofNat, Nat.zero_max]
    change larger (larger 0 (Float.ofNat backoff)) _ = _
    rw [first]
    rfl
  steady_eq _ _ := rfl

section Repeating

variable {σ α : Type} {repeater : Repeater} {repetition : Repetition σ} {call : Act σ α}
  {stage : Stage σ} {fault : Fault}

/-- An outcome after which nothing is to be done again stands. -/
theorem Lawful.runOn_of_stands (lawful : repeater.Lawful)
    (stands : ∀ fault, (runOn call stage).1 = .error fault →
      ¬(1 < repetition.limit ∧ repetition.covers fault = true)) :
    runOn (repeater.repeated repetition call) stage = runOn call stage := by
  rw [lawful.repeated_eq, runOn_bind, runOn_attempt]
  rcases ended : runOn call stage with ⟨fault | answer, after⟩
  · rw [ended] at stands
    dsimp only
    rw [if_neg (stands fault rfl)]
    rfl
  · rfl

/-- After a covered fault the call is made again, if attempts are left. -/
theorem Lawful.runOn_of_fault (lawful : repeater.Lawful) (more : 1 < repetition.limit)
    (failed : (runOn call stage).1 = .error fault) (covered : repetition.covers fault = true) :
    runOn (repeater.repeated repetition call) stage =
      runOn (do repetition.turn fault; repeater.repeated repetition.later call)
        (runOn call stage).2 := by
  rw [lawful.repeated_eq, runOn_bind, runOn_attempt, failed]
  dsimp only
  rw [if_pos ⟨more, covered⟩]

/-- Repeating a call keeps what the call keeps, and what is done in between. -/
theorem Lawful.repeated_keeps (lawful : repeater.Lawful) {ready : σ → Prop}
    (announces : ∀ attempt fault seconds, Keeps ready (repetition.announce attempt fault seconds))
    (pauses : ∀ seconds, Keeps ready (repetition.pause seconds)) (first : Keeps ready call) :
    Keeps ready (repeater.repeated repetition call) := by
  obtain ⟨left, bound⟩ : ∃ left : Nat, repetition.limit ≤ left + 1 :=
    ⟨repetition.limit.toNat, by omega⟩
  induction left generalizing repetition with
  | zero =>
    intro stage met
    rw [lawful.runOn_of_stands fun _ _ goesOn => by omega]
    exact first stage met
  | succ left ih =>
    have rest : Keeps ready (repeater.repeated repetition.later call) :=
      ih (fun attempt => announces (attempt + 1)) pauses
        (by change repetition.limit - 1 ≤ left + 1; omega)
    rw [lawful.repeated_eq]
    refine first.attempt_bind fun outcome => ?_
    cases outcome with
    | ok answer => exact keeps_pure answer
    | error fault =>
      dsimp only
      split
      · have turns : Keeps ready (repetition.turn fault) :=
          (announces _ _ _).bind fun _ => pauses _
        exact turns.bind fun _ => rest
      · exact keeps_throw fault

end Repeating
end Repeater

namespace Retry

variable {σ α : Type} {repeater : Repeater} {repetition : Repetition σ} {ready : σ → Prop}
  {failing : σ → Nat} {call : Act σ α} {answer : Except Fault α}

/-- The outside counts how often a call is still going to fail with covered faults; after that the
call ends in an answer, and goes on to do so. -/
structure Settles (covers : Fault → Bool) (ready : σ → Prop) (failing : σ → Nat) (call : Act σ α)
    (answer : Except Fault α) : Prop where
  fails : ∀ stage : Stage σ, ready stage.outside → ∀ times, failing stage.outside = times + 1 →
    ∃ fault, (runOn call stage).1 = .error fault ∧ covers fault = true ∧
      ready (runOn call stage).2.outside ∧ failing (runOn call stage).2.outside = times
  answers : ∀ stage : Stage σ, ready stage.outside → failing stage.outside = 0 →
    (runOn call stage).1 = answer ∧ ready (runOn call stage).2.outside ∧
      failing (runOn call stage).2.outside = 0

/-- A call that always gives an answer settles on it at once. -/
theorem Settles.of_gives {covers : Fault → Bool} (given : Gives ready call answer) :
    Settles covers ready (fun _ => 0) call answer where
  fails _ _ _ more := nomatch more
  answers stage met _ := ⟨(given stage met).1, (given stage met).2, rfl⟩

/-- The condition holds, and so many calls are still going to fail. -/
def StillFails (ready : σ → Prop) (failing : σ → Nat) (times : Nat) (outside : σ) : Prop :=
  ready outside ∧ failing outside = times

/-- What is done between two attempts leaves the condition and the count as they are. -/
structure IsCalm (repetition : Repetition σ) (ready : σ → Prop) (failing : σ → Nat) : Prop where
  announces : ∀ attempt fault seconds times,
    Returns (StillFails ready failing times) (repetition.announce attempt fault seconds)
  pauses : ∀ seconds times, Returns (StillFails ready failing times) (repetition.pause seconds)

theorem IsCalm.later (calm : IsCalm repetition ready failing) :
    IsCalm repetition.later ready failing :=
  ⟨fun attempt => calm.announces (attempt + 1), calm.pauses⟩

theorem IsCalm.turn (calm : IsCalm repetition ready failing) (fault : Fault) (times : Nat) :
    Returns (StillFails ready failing times) (repetition.turn fault) :=
  Ends.bind (calm.announces _ _ _ times) fun _ => calm.pauses _ times

/-- **A call made often enough gives its answer.** -/
theorem repeated_gives (lawful : repeater.Lawful) (calm : IsCalm repetition ready failing)
    (settles : Settles repetition.covers ready failing call answer) (stage : Stage σ)
    (met : ready stage.outside)
    (enough : failing stage.outside = 0 ∨ (failing stage.outside : Int) < repetition.limit) :
    (runOn (repeater.repeated repetition call) stage).1 = answer ∧
      ready (runOn (repeater.repeated repetition call) stage).2.outside := by
  obtain ⟨left, bound⟩ : ∃ left : Nat, repetition.limit ≤ left :=
    ⟨repetition.limit.toNat, by omega⟩
  induction left generalizing repetition stage with
  | zero =>
    obtain ⟨ended, kept, -⟩ := settles.answers stage met (by omega)
    rw [lawful.runOn_of_stands fun _ _ goesOn => by omega]
    exact ⟨ended, kept⟩
  | succ left ih =>
    have again {fault : Fault} {times : Nat} (more : 1 < repetition.limit)
        (failed : (runOn call stage).1 = .error fault) (covered : repetition.covers fault = true)
        (still : StillFails ready failing times (runOn call stage).2.outside)
        (few : times = 0 ∨ (times : Int) < repetition.limit - 1) :
        (runOn (repeater.repeated repetition call) stage).1 = answer ∧
          ready (runOn (repeater.repeated repetition call) stage).2.outside := by
      obtain ⟨_, turned, met, same⟩ := calm.turn fault times _ still
      rw [lawful.runOn_of_fault more failed covered, runOn_bind_of_ok turned]
      exact ih calm.later settles _ met (by rw [same]; exact few)
        (by change repetition.limit - 1 ≤ left; omega)
    cases count : failing stage.outside with
    | succ times =>
      obtain ⟨fault, failed, covered, kept, fewer⟩ := settles.fails stage met times count
      exact again (by omega) failed covered ⟨kept, fewer⟩ (by omega)
    | zero =>
      obtain ⟨ended, kept, none⟩ := settles.answers stage met count
      -- The answer may itself be a covered fault, and is then given again and again.
      by_cases goesOn : 1 < repetition.limit ∧
          ∃ fault, (runOn call stage).1 = .error fault ∧ repetition.covers fault = true
      · obtain ⟨more, fault, failed, covered⟩ := goesOn
        exact again more failed covered ⟨kept, none⟩ (.inl rfl)
      · rw [lawful.runOn_of_stands fun fault failed going =>
          goesOn ⟨going.1, fault, failed, going.2⟩]
        exact ⟨ended, kept⟩

/-- A call by a rule that waits calmly gives its answer if it fails less often than it is made. -/
theorem call_gives (lawful : repeater.Lawful) {rule : Rule σ}
    (settles : Settles rule.covers ready failing call answer)
    (pauses : ∀ seconds times, Returns (StillFails ready failing times) (rule.pause seconds))
    (enough : ∀ outside, ready outside →
      failing outside = 0 ∨ (failing outside : Int) < rule.config.maxAttempts) (name : String) :
    Gives ready (Retry.call repeater rule name call) answer :=
  fun stage met =>
    repeated_gives lawful ⟨fun _ _ _ _ => ends_note _ _ _, pauses⟩ settles stage met (enough _ met)

end Retry
end CatalogDelta
