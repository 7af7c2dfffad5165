import CatalogDelta.Pool.Traffic
import CatalogDelta.Proofs.Pool.Books
import CatalogDelta.Proofs.Pool.Close

/-!
# Undisturbed leases and closings

A lease or a closing that is not disturbed by others does the same, move by move, as when it is done
at once.
-/

namespace CatalogDelta.Pool.Host

open Act

variable {σ κ : Type} [DecidableEq κ] {host : Host σ κ} {call next last : Call κ}
  {stage between after : Stage σ}

/-- A call gets so far, and nothing else happens meanwhile. -/
inductive Undisturbed (host : Host σ κ) : Call κ → Stage σ → Call κ → Stage σ → Prop
  | refl (call : Call κ) (stage : Stage σ) : host.Undisturbed call stage call stage
  | go {call next last : Call κ} {stage between after : Stage σ}
      (gone : host.goOn? call stage = some (next, between))
      (rest : host.Undisturbed next between last after) : host.Undisturbed call stage last after
  | giveUp {call next last : Call κ} {stage between after : Stage σ}
      (gone : host.giveUp? call stage = some (next, between))
      (rest : host.Undisturbed next between last after) : host.Undisturbed call stage last after

/-- A call that goes on undisturbed does so in the traffic of others, who stay where they are. -/
theorem Undisturbed.play? (alone : host.Undisturbed call stage last after)
    (before behind : List (Call κ)) :
    ∃ moves, host.play? moves { stage, calls := before ++ call :: behind } =
      some { stage := after, calls := before ++ last :: behind } := by
  have moves {next? : Call κ → Stage σ → Option (Call κ × Stage σ)} {call next : Call κ}
      {stage between : Stage σ} (gone : next? call stage = some (next, between)) :
      moveAt? before.length next? { stage, calls := before ++ call :: behind } =
        some { stage := between, calls := before ++ next :: behind } := by
    simp only [moveAt?, List.getElem?_append_right (Nat.le_refl _), Nat.sub_self,
      List.getElem?_cons_zero, gone, Option.map_some, List.set_append_right _ _ (Nat.le_refl _),
      List.set_cons_zero]
  induction alone with
  | refl call stage => exact ⟨[], rfl⟩
  | go gone _ ih =>
    obtain ⟨others, played⟩ := ih
    exact ⟨.go before.length :: others, Option.bind_eq_some_iff.mpr ⟨_, moves gone, played⟩⟩
  | giveUp gone _ ih =>
    obtain ⟨others, played⟩ := ih
    exact ⟨.giveUp before.length :: others, Option.bind_eq_some_iff.mpr ⟨_, moves gone, played⟩⟩

theorem Undisturbed.trans (first : host.Undisturbed call stage next between)
    (second : host.Undisturbed next between last after) :
    host.Undisturbed call stage last after := by
  induction first with
  | refl call stage => exact second
  | go gone _ ih => exact .go gone (ih second)
  | giveUp gone _ ih => exact .giveUp gone (ih second)

theorem undisturbed_of_goOnLease? {old new : LeaseState κ}
    (gone : host.goOnLease? old stage = some (new, after)) :
    host.Undisturbed (.lease old) stage (.lease new) after :=
  .go (Option.map_eq_some_iff.mpr ⟨_, gone, rfl⟩) (.refl _ _)

theorem undisturbed_of_goOnClosing? {old new : ClosingState κ}
    (gone : host.goOnClosing? old stage = some (new, after)) :
    host.Undisturbed (.close old) stage (.close new) after :=
  .go (Option.map_eq_some_iff.mpr ⟨_, gone, rfl⟩) (.refl _ _)

/-- How far a lease that has a slot has come when a client has been checked out, or could not be. -/
def checkedOut : Except Fault κ → LeaseState κ
  | .ok client => .holding client
  | .error cause => .failing cause

theorem checkOut_undisturbed (host : Host σ κ) (stage : Stage σ) :
    host.Undisturbed (.lease .placed) stage (.lease (checkedOut (runOn host.checkOut stage).1))
      (runOn host.checkOut stage).2 := by
  cases found : (host.pool stage.outside).takeIdle? with
  | some taken =>
    obtain ⟨client, rest⟩ := taken
    have done : runOn host.checkOut stage = (.ok client, host.withPool rest stage) := by
      simp only [checkOut, runOn_bind, runOn_view, found]
      rfl
    rw [done]
    exact undisturbed_of_goOnLease? (by simp only [goOnLease?, found, checkedOut])
  | none =>
    have lacking : host.goOnLease? .placed stage = some (.lacking, stage) := by
      simp only [goOnLease?, found]
    refine (undisturbed_of_goOnLease? lacking).trans ?_
    rcases made : runOn host.make stage with ⟨cause | client, rest⟩
    · have failed : runOn host.checkOut stage = (.error cause, rest) := by
        simp only [checkOut, runOn_bind, runOn_view, found, made]
      rw [failed]
      exact undisturbed_of_goOnLease? (by simp only [goOnLease?, bring, made, checkedOut])
    · have entered : runOn host.checkOut stage =
          (.ok client, (runOn (host.enrol client) rest).2) := by
        simp only [checkOut, enrol, put, runOn_bind, runOn_view, runOn_note, runOn_change,
          runOn_pure, found, made]
      have brought : host.goOnLease? .lacking stage = some (.bringing client, rest) := by
        simp only [goOnLease?, bring, made]
      rw [entered]
      exact (undisturbed_of_goOnLease? brought).trans (undisturbed_of_goOnLease? rfl)

/-- How far a lease has come when it has been acquired or refused. -/
def acquired : Except Fault κ → LeaseState κ
  | .ok client => .holding client
  | .error fault => .ended (.error fault)

/-- **An undisturbed lease is acquired as at once.** -/
theorem acquire_undisturbed (host : Host σ κ) (stage : Stage σ) :
    host.Undisturbed (.lease .begun) stage (.lease (acquired (runOn host.acquire stage).1))
      (runOn host.acquire stage).2 := by
  cases closed : (host.pool stage.outside).closed with
  | true =>
    have refused : runOn host.acquire stage = (.error closedFault, stage) := by
      simp only [acquire, runOn_bind, runOn_view, closed, ↓reduceIte, runOn_throw]
    rw [refused]
    exact undisturbed_of_goOnLease? (by simp only [goOnLease?, closed, acquired, ↓reduceIte])
  | false =>
    have admitted : host.goOnLease? .begun stage = some (.admitted, stage) := by
      simp only [goOnLease?, closed, Bool.false_eq_true, ↓reduceIte]
    refine (undisturbed_of_goOnLease? admitted).trans ?_
    cases slot : (host.pool stage.outside).takeSlot? with
    | none =>
      have refused : runOn host.acquire stage =
          (.error (host.timeoutFault (host.pool stage.outside)), stage) := by
        simp only [acquire, runOn_bind, runOn_view, closed, slot, runOn_throw, Bool.false_eq_true,
          ↓reduceIte]
      have free := takeSlot?_eq_none_iff.mp slot
      rw [refused]
      exact .giveUp (by simp only [giveUp?, free, ↓reduceIte]; rfl) (.refl _ _)
    | some rest =>
      have placed : host.goOnLease? .admitted stage = some (.placed, host.withPool rest stage) := by
        simp only [goOnLease?, slot, Option.map_some]
      refine (undisturbed_of_goOnLease? placed).trans ?_
      have out := checkOut_undisturbed host (host.withPool rest stage)
      rcases ran : runOn host.checkOut (host.withPool rest stage) with ⟨cause | client, after⟩
      · rw [ran] at out
        unfold withPool at ran
        have failed : runOn host.acquire stage = (.error (makingFault cause),
            host.withPool (host.pool after.outside).returnSlot after) := by
          simp only [acquire, runOn_bind, runOn_view, closed, slot, put, runOn_change,
            runOn_attempt, runOn_throw, ran, withPool, Bool.false_eq_true, ↓reduceIte]
        rw [failed]
        exact out.trans (undisturbed_of_goOnLease? rfl)
      · rw [ran] at out
        unfold withPool at ran
        have given : runOn host.acquire stage = (.ok client, after) := by
          simp only [acquire, runOn_bind, runOn_view, closed, slot, put, runOn_change,
            runOn_attempt, runOn_pure, ran, Bool.false_eq_true, ↓reduceIte]
        rw [given]
        exact out

/-- **An undisturbed lease is given back as at once.** -/
theorem release_undisturbed (host : Host σ κ) (client : κ) (stage : Stage σ)
    (pool_setPool : ∀ pool outside, host.pool (host.setPool pool outside) = pool)
    (setPool_setPool : ∀ first second outside,
      host.setPool second (host.setPool first outside) = host.setPool second outside) :
    host.Undisturbed (.lease (.holding client)) stage (.lease (.ended (.ok ())))
      (runOn (host.release client) stage).2 := by
  rcases given : (host.pool stage.outside).giveBack client with ⟨orphaned, rest⟩
  have left : host.goOnLease? (.holding client) stage =
      some (.leaving client orphaned, host.withPool rest stage) := by
    simp only [goOnLease?, given]
  have back : host.goOnLease? (.leaving client orphaned) (host.withPool rest stage) =
      some (if orphaned then .closing client else .ended (.ok ()),
        host.withPool rest.returnSlot stage) := by
    simp only [goOnLease?, withPool, pool_setPool, setPool_setPool]
  refine (undisturbed_of_goOnLease? left).trans ((undisturbed_of_goOnLease? back).trans ?_)
  have released : runOn (host.release client) stage =
      runOn (if orphaned then host.closeClient client else pure ())
        (host.withPool rest.returnSlot stage) := by
    simp only [release, runOn_bind, runOn_view, given, put, runOn_change, withPool]
  rw [released]
  cases orphaned with
  | false => exact .refl _ _
  | true => exact undisturbed_of_goOnLease? rfl

theorem forM_closeClient_undisturbed (host : Host σ κ) (count : Nat) (clients : List κ)
    (stage : Stage σ) :
    (runOn (clients.forM host.closeClient) stage).1 = .ok () ∧
      host.Undisturbed (.close (.closing count clients)) stage (.close (.closing count []))
        (runOn (clients.forM host.closeClient) stage).2 := by
  induction clients generalizing stage with
  | nil => exact ⟨rfl, .refl _ _⟩
  | cons client others ih =>
    have next : runOn ((client :: others).forM host.closeClient) stage =
        runOn (others.forM host.closeClient) (runOn (host.closeClient client) stage).2 :=
      runOn_bind_of_ok (closeClient_run host client stage).1 fun _ => others.forM host.closeClient
    rw [next]
    obtain ⟨ended, alone⟩ := ih (runOn (host.closeClient client) stage).2
    exact ⟨ended, (undisturbed_of_goOnClosing? rfl).trans alone⟩

/-- **An undisturbed closing ends as at once.** -/
theorem close_undisturbed (host : Host σ κ) (stage : Stage σ) :
    host.Undisturbed (.close .begun) stage (.close .ended) (runOn host.close stage).2 := by
  rcases shut : (host.pool stage.outside).shut with ⟨clients, rest⟩
  have begun : host.goOnClosing? .begun stage =
      some (.closing clients.length clients, host.withPool rest stage) := by
    simp only [goOnClosing?, shut]
  obtain ⟨ended, alone⟩ :=
    forM_closeClient_undisturbed host clients.length clients (host.withPool rest stage)
  refine (undisturbed_of_goOnClosing? begun).trans (alone.trans ?_)
  have closed : runOn host.close stage =
      runOn (Act.note Level.debug Author.catalog
        ("Closed " ++ toString clients.length ++ " catalog client(s)"))
        (runOn (clients.forM host.closeClient) (host.withPool rest stage)).2 := by
    rw [← runOn_bind_of_ok ended fun _ => Act.note Level.debug Author.catalog _]
    simp only [close, runOn_bind, runOn_view, shut, put, runOn_change, withPool]
  rw [closed]
  exact undisturbed_of_goOnClosing? rfl

end CatalogDelta.Pool.Host
