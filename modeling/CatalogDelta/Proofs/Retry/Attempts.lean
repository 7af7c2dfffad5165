import CatalogDelta.Proofs.Retry
import Mathlib.Data.ENat.Basic
import Mathlib.Data.Stream.Init

/-!
# How often a call is made

The outcomes of a call are a sequence without an end, and the caller sees a first part of it: as far
as the first outcome after which the call is not made again, and no farther than the configuration
allows. Main statement: `call_makes_attempts`.
-/

namespace CatalogDelta

namespace RetryConfig

/-- The seconds that are waited after the attempt of a number: as many as at first, or twice as many
each time. Doubling goes up to the longest wait, but not below what is waited at first. -/
def secondsAfter (exponential : Bool) (backoff attempt : Nat) : Nat :=
  if exponential then max backoff (min (backoff * 2 ^ (attempt - 1)) (2 ^ 62)) else backoff

/-- Without jitter the wait is the float of the whole number of seconds. -/
theorem wait_whole {repeater : Repeater} (lawful : repeater.Lawful) {config : RetryConfig}
    {backoff : Nat} (whole : config.backoff = .whole backoff) (plain : config.jitter = false)
    (attempt : Nat) :
    config.wait repeater (attempt + 1) =
      Float.ofNat (secondsAfter config.exponential backoff (attempt + 1)) := by
  have longest : Repeater.longestWait = Float.ofNat (2 ^ 62) := by
    have power : 2 ^ 62 = 4611686018427387904 := by decide
    rw [power]
    rfl
  have power : Nat.pow 2 attempt = 2 ^ attempt := rfl
  simp only [wait, secondsAfter, whole, plain, Bool.false_eq_true, ↓reduceIte]
  rw [lawful.doubling_eq, lawful.steady_eq, longest, Repeater.smaller_ofNat,
    Repeater.larger_ofNat, Nat.add_sub_cancel, apply_ite Float.ofNat, power]

end RetryConfig

namespace Retry

open Act

variable {ι α : Type}

/-- The outcomes that a function is going to have, and what it was called with and how long was
waited so far. -/
structure Tape (ι α : Type) where
  ahead : Stream' (Except Fault α)
  calls : List ι := []
  waits : List Float := []

/-- A function whose outcomes are on the tape. -/
def played (arguments : ι) : Act (Tape ι α) α := do
  let outcome ← view fun tape => tape.ahead.head
  change fun tape => { tape with ahead := tape.ahead.tail, calls := tape.calls ++ [arguments] }
  settle outcome

/-- The rule of a configuration, with the waits written on the tape. -/
def timed (config : RetryConfig) (kinds : List FaultKind) : Rule (Tape ι α) where
  config := config
  kinds := kinds
  pause seconds := change fun tape => { tape with waits := tape.waits ++ [seconds] }

/-- No call is made after this outcome: it is an answer, or a fault that is not to be retried on. -/
def Rule.ends {σ : Type} (rule : Rule σ) : Except Fault α → Bool
  | .ok _ => true
  | .error fault => !rule.covers fault

open Classical in
/-- The position of the first outcome that ends a call, counted from one. -/
noncomputable def firstEnd {σ : Type} (rule : Rule σ) (outcomes : Stream' (Except Fault α)) : ℕ∞ :=
  if some : ∃ position, rule.ends (outcomes.get position) = true then (Nat.find some + 1 : ℕ) else ⊤

/-- What is left of a repetition after so many attempts. -/
def afterAttempts {σ : Type} (repetition : Repetition σ) (attempts : Nat) : Repetition σ :=
  { repetition with
    limit := repetition.limit - attempts
    wait := fun attempt => repetition.wait (attempts + attempt)
    announce := fun attempt => repetition.announce (attempts + attempt) }

theorem afterAttempts_zero {σ : Type} (repetition : Repetition σ) :
    afterAttempts repetition 0 = repetition := by
  simp only [afterAttempts, Nat.zero_add, Int.ofNat_zero, Int.sub_zero]

theorem later_afterAttempts {σ : Type} (repetition : Repetition σ) (attempts : Nat) :
    (afterAttempts repetition attempts).later = afterAttempts repetition (attempts + 1) := by
  have shift (attempt : Nat) : attempts + (attempt + 1) = attempts + 1 + attempt := by omega
  have less : repetition.limit - attempts - 1 = repetition.limit - (attempts + 1 : Nat) := by omega
  change Repetition.mk _ _ _ _ _ = Repetition.mk _ _ _ _ _
  rw [Repetition.mk.injEq]
  exact ⟨less, rfl, funext fun attempt => congrArg repetition.wait (shift attempt),
    funext fun attempt => congrArg repetition.announce (shift attempt), rfl⟩

variable {repeater : Repeater} {config : RetryConfig} {kinds : List FaultKind} {name : String}
  {arguments : ι} {stage : Stage (Tape ι α)} {fault : Fault}

/-- The stage after calls that failed with these faults, each with its notice and its wait. -/
def afterFaults (repeater : Repeater) (config : RetryConfig) (kinds : List FaultKind)
    (name : String) (arguments : ι) (attempt : Nat) (faults : List Fault)
    (stage : Stage (Tape ι α)) : Stage (Tape ι α) where
  outside := {
    ahead := stage.outside.ahead.drop faults.length
    calls := stage.outside.calls ++ List.replicate faults.length arguments
    waits := stage.outside.waits ++
      faults.mapIdx fun earlier _ => config.wait repeater (attempt + earlier) }
  journal := stage.journal ++ faults.mapIdx fun earlier fault =>
    ⟨Level.warning, Author.resilience,
      notice (timed config kinds : Rule (Tape ι α)) name (attempt + earlier) fault
        (config.wait repeater (attempt + earlier)), []⟩

theorem afterFaults_cons (attempt : Nat) (others : List Fault) :
    afterFaults repeater config kinds name arguments attempt (fault :: others) stage =
      afterFaults repeater config kinds name arguments (attempt + 1) others
        (afterFaults repeater config kinds name arguments attempt [fault] stage) := by
  unfold afterFaults
  have later (earlier : Nat) : attempt + 1 + earlier = attempt + (earlier + 1) := by omega
  simp only [List.mapIdx_cons, List.mapIdx_nil, List.length_cons, List.length_nil, later,
    List.replicate_succ, List.replicate_zero, List.append_assoc, List.singleton_append,
    Stream'.drop_succ, Stream'.drop_zero, Nat.add_zero]

theorem runOn_played (arguments : ι) (stage : Stage (Tape ι α)) :
    runOn (played arguments) stage =
      (stage.outside.ahead.head,
        { stage with outside := { stage.outside with
            ahead := stage.outside.ahead.tail
            calls := stage.outside.calls ++ [arguments] } }) := by
  unfold played
  rw [runOn_bind, runOn_view]
  dsimp only
  rw [runOn_bind, runOn_change]
  exact runOn_settle _ _

/-- A call of a function on the tape, so many attempts at which have been made. -/
def resumed (repeater : Repeater) (config : RetryConfig) (kinds : List FaultKind) (name : String)
    (attempts : Nat) (arguments : ι) : Act (Tape ι α) α :=
  repeater.repeated (afterAttempts ((timed config kinds).repetition repeater name) attempts)
    (played arguments)

/-- After a covered fault the call is made again. -/
theorem resumed_of_fault (lawful : repeater.Lawful) (attempts : Nat)
    (more : (attempts + 1 : Nat) < config.maxAttempts)
    (failed : stage.outside.ahead.head = .error fault)
    (covered : (timed config kinds : Rule (Tape ι α)).covers fault = true) :
    runOn (resumed repeater config kinds name attempts arguments) stage =
      runOn (resumed repeater config kinds name (attempts + 1) arguments)
        (afterFaults repeater config kinds name arguments (attempts + 1) [fault] stage) := by
  have ended : (runOn (played arguments) stage).1 = .error fault := by
    rw [runOn_played, failed]
  have left : 1 < config.maxAttempts - attempts := by omega
  unfold resumed
  rw [lawful.runOn_of_fault left ended covered, later_afterAttempts, runOn_played]
  rfl

theorem resumed_of_faults (lawful : repeater.Lawful) (attempts : Nat) {faults : List Fault}
    (more : faults = [] ∨ (attempts + faults.length : Nat) < config.maxAttempts)
    (failed : stage.outside.ahead.take faults.length = faults.map .error)
    (covered : ∀ fault ∈ faults, (timed config kinds : Rule (Tape ι α)).covers fault = true) :
    runOn (resumed repeater config kinds name attempts arguments) stage =
      runOn (resumed repeater config kinds name (attempts + faults.length) arguments)
        (afterFaults repeater config kinds name arguments (attempts + 1) faults stage) := by
  induction faults generalizing attempts stage with
  | nil =>
    have same : afterFaults repeater config kinds name arguments (attempts + 1) [] stage =
        stage := by
      simp only [afterFaults, List.mapIdx_nil, List.length_nil, List.replicate_zero,
        List.append_nil, Stream'.drop_zero]
    rw [same, List.length_nil, Nat.add_zero]
  | cons fault others ih =>
    obtain ⟨firstCovered, othersCovered⟩ := List.forall_mem_cons.mp covered
    obtain ⟨firstFailed, othersFailed⟩ := List.cons.inj failed
    have more := more.resolve_left (List.cons_ne_nil _ _)
    rw [List.length_cons] at more ⊢
    have number : attempts + (others.length + 1) = attempts + 1 + others.length := by omega
    rw [number, resumed_of_fault lawful attempts (by omega) firstFailed firstCovered,
      ih (attempts + 1) (.inr (by omega)) othersFailed othersCovered, ← afterFaults_cons]

/-- A call that is not made again is made once. -/
theorem resumed_of_ends (lawful : repeater.Lawful) (attempts : Nat)
    (ends : config.maxAttempts ≤ (attempts + 1 : Nat) ∨
      (timed config kinds : Rule (Tape ι α)).ends stage.outside.ahead.head = true) :
    runOn (resumed repeater config kinds name attempts arguments) stage =
      runOn (played arguments) stage := by
  refine lawful.runOn_of_stands fun fault failed goesOn => ?_
  obtain ⟨left, covered⟩ := goesOn
  replace left : 1 < config.maxAttempts - attempts := left
  replace failed : stage.outside.ahead.head = .error fault := by
    rw [runOn_played] at failed
    exact failed
  rcases ends with few | ends
  · omega
  · rw [failed, Rule.ends, Bool.not_eq_true'] at ends
    exact Bool.false_ne_true (ends.symm.trans covered)

theorem exists_faults {rule : Rule (Tape ι α)} {outcomes : Stream' (Except Fault α)} {count : Nat}
    (goesOn : ∀ earlier < count, rule.ends (outcomes.get earlier) = false) :
    ∃ faults : List Fault, faults.length = count ∧ outcomes.take count = faults.map .error ∧
      ∀ fault ∈ faults, rule.covers fault = true := by
  induction count generalizing outcomes with
  | zero => exact ⟨[], rfl, rfl, List.forall_mem_nil _⟩
  | succ count ih =>
    have later : ∀ earlier < count, rule.ends (outcomes.tail.get earlier) = false :=
      fun earlier less => goesOn (earlier + 1) (by omega)
    obtain ⟨others, length, rest, covered⟩ := ih later
    have first : rule.ends outcomes.head = false := goesOn 0 (by omega)
    cases outcome : outcomes.head with
    | ok answer =>
      rw [outcome] at first
      cases first
    | error fault =>
      rw [outcome, Rule.ends, Bool.not_eq_false'] at first
      refine ⟨fault :: others, congrArg Nat.succ length, ?_,
        List.forall_mem_cons.mpr ⟨first, covered⟩⟩
      rw [Stream'.take_succ, outcome, rest]
      rfl

/-- As many calls fail with covered faults as go before the first outcome that ends a call, unless
fewer are allowed. -/
theorem exists_count (rule : Rule (Tape ι α)) (outcomes : Stream' (Except Fault α)) (left : Nat) :
    ∃ count ≤ left, ((count + 1 : ℕ) : ℕ∞) = min (firstEnd rule outcomes) (left + 1 : ℕ) ∧
      (∀ earlier < count, rule.ends (outcomes.get earlier) = false) ∧
      (count = left ∨ rule.ends (outcomes.get count) = true) := by
  unfold firstEnd
  split
  · rename_i some
    refine ⟨min (Nat.find some) left, min_le_right _ _, ?_, fun earlier less => ?_, ?_⟩
    · rw [← Nat.mono_cast.map_min, Nat.add_min_add_right]
    · exact Bool.eq_false_of_not_eq_true (Nat.find_min some (lt_min_iff.mp less).1)
    · rcases le_total (Nat.find some) left with le | le
      · rw [min_eq_left le]
        exact .inr (Nat.find_spec some)
      · exact .inl (min_eq_right le)
  · rename_i none
    refine ⟨left, le_rfl, (min_top_left _).symm, fun earlier _ => ?_, .inl rfl⟩
    exact Bool.eq_false_of_not_eq_true fun ends => none ⟨earlier, ends⟩

/-- Whatever the configuration, a call that goes on after these faults is then made once more. -/
theorem call_repeats (lawful : repeater.Lawful) (config : RetryConfig) (kinds : List FaultKind)
    (name : String) (arguments : ι) (stage : Stage (Tape ι α)) :
    ∃ faults : List Fault,
      ((faults.length + 1 : ℕ) : ℕ∞) =
        min (firstEnd (timed config kinds : Rule (Tape ι α)) stage.outside.ahead)
          (max 1 config.maxAttempts).toNat ∧
      stage.outside.ahead.take faults.length = faults.map .error ∧
      runOn (call repeater (timed config kinds) name (played arguments)) stage =
        runOn (played arguments)
          (afterFaults repeater config kinds name arguments 1 faults stage) := by
  obtain ⟨count, within, position, goesOn, ended⟩ := exists_count
    (timed config kinds : Rule (Tape ι α)) stage.outside.ahead
      ((max 1 config.maxAttempts).toNat - 1)
  obtain ⟨faults, rfl, failed, covered⟩ := exists_faults goesOn
  have allowed : (max 1 config.maxAttempts).toNat - 1 + 1 = (max 1 config.maxAttempts).toNat := by
    omega
  rw [allowed] at position
  refine ⟨faults, position, failed, ?_⟩
  have more : faults = [] ∨ (0 + faults.length : Nat) < config.maxAttempts := by
    rcases Nat.eq_zero_or_pos faults.length with none | some
    · exact .inl (List.length_eq_zero_iff.mp none)
    · exact .inr (by omega)
  have last : config.maxAttempts ≤ (0 + faults.length + 1 : Nat) ∨
      (timed config kinds : Rule (Tape ι α)).ends
        (stage.outside.ahead.drop faults.length).head = true := by
    rw [Stream'.head_drop]
    exact ended.imp_left fun all => by omega
  have resumes : call repeater (timed config kinds) name (played arguments) =
      (resumed repeater config kinds name 0 arguments : Act (Tape ι α) α) := by
    unfold resumed call
    rw [afterAttempts_zero]
  rw [resumes, resumed_of_faults lawful 0 more failed covered]
  exact resumed_of_ends lawful _ last

/-- **A call is made until an outcome ends it, as often as is allowed**, whoever repeats it. It is
made with the same arguments each time, and its last outcome stands. Before each call but the first
there is one notice of the fault of the call before, and one wait, which is as long as the whole
number of seconds. -/
theorem call_makes_attempts {repeater : Repeater} (lawful : repeater.Lawful) (maxAttempts : Int)
    (backoff : Nat) (exponential : Bool) (kinds : List FaultKind) (name : String) (arguments : ι)
    (stage : Stage (Tape ι α)) :
    let rule : Rule (Tape ι α) :=
      timed { maxAttempts, backoff := .whole backoff, exponential, jitter := false } kinds
    ∃ faults : List Fault,
      ((faults.length + 1 : ℕ) : ℕ∞) =
        min (firstEnd rule stage.outside.ahead) (max 1 maxAttempts).toNat ∧
      stage.outside.ahead.take faults.length = faults.map .error ∧
      runOn (call repeater rule name (played arguments)) stage =
        (stage.outside.ahead.get faults.length,
          { outside := {
              ahead := stage.outside.ahead.drop (faults.length + 1)
              calls := stage.outside.calls ++ List.replicate (faults.length + 1) arguments
              waits := stage.outside.waits ++ faults.mapIdx fun earlier _ =>
                Float.ofNat (RetryConfig.secondsAfter exponential backoff (earlier + 1)) }
            journal := stage.journal ++ faults.mapIdx fun earlier fault =>
              ⟨Level.warning, Author.resilience, notice rule name (earlier + 1) fault
                (Float.ofNat (RetryConfig.secondsAfter exponential backoff (earlier + 1))),
                []⟩ }) := by
  intro rule
  obtain ⟨faults, position, failed, ran⟩ := call_repeats lawful
    { maxAttempts, backoff := .whole backoff, exponential, jitter := false } kinds name arguments
    stage
  have waited (earlier : Nat) :
      RetryConfig.wait { maxAttempts, backoff := .whole backoff, exponential, jitter := false }
          repeater (earlier + 1) =
        Float.ofNat (RetryConfig.secondsAfter exponential backoff (earlier + 1)) :=
    RetryConfig.wait_whole lawful rfl rfl earlier
  refine ⟨faults, position, failed, ran.trans ?_⟩
  rw [runOn_played]
  unfold afterFaults
  simp only [Nat.add_comm 1, waited, List.append_assoc, List.replicate_succ', Stream'.tail_drop',
    Stream'.head_drop]
  rfl

def slow : Fault := .foreign .timeout "slow"

/-- Nothing is ever answered in time. -/
def neverInTime : Stage (Tape String Unit) where
  outside := { ahead := Stream'.const (.error slow) }

/-- The call is made twice, with a wait of five seconds in between. -/
theorem neverInTime_called :
    let rule : Rule (Tape String Unit) :=
      timed { maxAttempts := 2, backoff := .whole 5, jitter := false } [.system]
    runOn (call .usual rule "list" (played "sales")) neverInTime =
      (.error slow,
        { outside := {
            ahead := Stream'.const (.error slow)
            calls := ["sales", "sales"]
            waits := [Float.ofNat 5] }
          journal := [⟨Level.warning, Author.resilience, notice rule "list" 1 slow (Float.ofNat 5),
            []⟩] }) := by
  intro rule
  obtain ⟨faults, position, failed, ran⟩ :=
    call_makes_attempts Repeater.usual_lawful 2 5 true [.system] "list" "sales" neverInTime
  have covered : rule.ends (.error slow : Except Fault Unit) = false := by decide
  have endless : firstEnd rule neverInTime.outside.ahead = ⊤ := by
    refine dif_neg ?_
    rintro ⟨position, ends⟩
    exact Bool.false_ne_true (covered.symm.trans ends)
  have twice : (max 1 (2 : Int)).toNat = 2 := by decide
  change _ = min (firstEnd rule neverInTime.outside.ahead) _ at position
  rw [endless, twice, min_eq_right le_top, Nat.cast_inj] at position
  obtain rfl : faults = [slow] := by
    obtain ⟨fault, rfl⟩ := List.length_eq_one_iff.mp (Nat.succ.inj position)
    have same : (.error slow : Except Fault Unit) = .error fault := (List.cons.inj failed).1
    rw [Except.error.inj same]
  exact ran

end Retry
end CatalogDelta
