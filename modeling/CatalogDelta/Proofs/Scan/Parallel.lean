import CatalogDelta.Proofs.Scan.Interleaving
import CatalogDelta.Proofs.Site.Services

/-!
# Scans by several workers answer as scans by one

A scan by any number of workers never comes to a standstill: while it has no answer, some worker has
a move to make. Since every move brings it nearer to its end and nothing found on the way depends on
the order of moves, it ends in the answer of a scan by one worker of each kind. Main statement:
`plays_end_as_run`.
-/

namespace CatalogDelta

open Act

namespace Crew

/-- The crew for a scan, with workers as configured. -/
def staffed {σ : Type} (scheduler : Scheduler σ) (selector : Selector) (priors : Watermarks)
    (now maxWorkers partitionWorkers : Int) : Crew σ where
  scheduler := { scheduler with
    tableWorkers := Scheduler.workers maxWorkers
    partitionWorkers := Scheduler.workers partitionWorkers }
  selector := selector
  priors := priors
  now := now

section Progress

variable {σ : Type} {crew : Crew σ}

/-- A look that has found something can be offered. -/
theorem exists_offer (crew : Crew σ) (table : Table) {task : TableTask}
    {seen : Partition × Look} (member : seen ∈ task.looks) (busy : seen.2.isBusy = true)
    (stage : Stage σ) :
    ∃ index, (crew.moveTable? table (.offer index) task stage).isSome = true := by
  cases task with
  | waiting | settled => exact absurd member List.not_mem_nil
  | looking looks best =>
    obtain ⟨partition, look⟩ := seen
    obtain ⟨index, found⟩ : ∃ index : Nat, looks[index]? = some (partition, look) :=
      List.getElem?_of_mem member
    cases look with
    | waiting | settled => contradiction
    | looked evaluation =>
      refine ⟨index, ?_⟩
      simp only [moveTable?, found, Option.isSome_some]

/-- A table whose partitions are looked at, with nothing to offer, has a partition to look at or can
be put together. -/
theorem exists_look_or_finish (crew : Crew σ) (table : Table) {task : TableTask}
    (busy : task.isBusy = true) (idle : ∀ seen ∈ task.looks, ¬ seen.2.isBusy = true)
    (stage : Stage σ) :
    (∃ index, (crew.moveTable? table (.look index) task stage).isSome = true) ∨
      (crew.moveTable? table .finish task stage).isSome = true := by
  cases task with
  | waiting | settled => contradiction
  | looking looks best =>
    by_cases waits : ∃ seen ∈ looks, seen.2 = .waiting
    · obtain ⟨⟨partition, _⟩, member, rfl⟩ := waits
      obtain ⟨index, found⟩ := List.getElem?_of_mem member
      refine .inl ⟨index, ?_⟩
      simp only [moveTable?, found, Option.isSome_some]
    · have all : ∀ answer ∈ looks.map (·.2.answer?), answer.isSome = true := by
        intro answer member
        obtain ⟨seen, inside, rfl⟩ := List.mem_map.mp member
        cases look : seen.2 with
        | waiting => exact absurd ⟨seen, inside, look⟩ waits
        | looked => exact absurd (by rw [look]; rfl) (idle seen inside)
        | settled => rfl
      obtain ⟨answer, gathered⟩ := exists_gather all
      right
      cases answer with
      | ok evaluations => simp only [moveTable?, gathered, Option.isSome_some]
      | error fault => simp only [moveTable?, gathered, Option.isSome_some]

/-- What a worker can do with a table is a move of the scan. -/
theorem exists_move_of_table {stage : Stage σ} {started : Int} {failures : List ScanFailure}
    {tasks : List (Table × TableTask)} {held : Table × TableTask} (member : held ∈ tasks)
    {move : TableMove} (worker : crew.hasWorker tasks held.2 move = true)
    (moves : (crew.moveTable? held.1 move held.2 stage).isSome = true) :
    ∃ move, (crew.move? move ⟨stage, .scanning started failures tasks⟩).isSome = true := by
  obtain ⟨index, found⟩ := List.getElem?_of_mem member
  refine ⟨.table index move, ?_⟩
  simp only [move?, found, worker, ↓reduceIte, Option.isSome_map, moves]

theorem hasWorker_of_idle {tasks : List (Table × TableTask)} {held : Table × TableTask}
    (member : held ∈ tasks)
    (idle : ∀ held ∈ tasks, ∀ seen ∈ held.2.looks, ¬ seen.2.isBusy = true) (index : Nat) :
    crew.hasWorker tasks held.2 (.look index) = true := by
  have none : (tasks.flatMap (·.2.looks)).countP (·.2.isBusy) = 0 := by
    refine List.countP_eq_zero.mpr fun seen inside => ?_
    obtain ⟨held, listed, inside⟩ := List.mem_flatMap.mp inside
    exact idle held listed seen inside
  have free : held.2.looks.all (!·.2.isBusy) = true :=
    List.all_eq_true.mpr fun seen inside => by
      rw [Bool.not_eq_true', ← Bool.not_eq_true]
      exact idle held member seen inside
  rw [hasWorker, none, free]
  split
  · rename_i several
    exact decide_eq_true (Nat.lt_trans Nat.zero_lt_one several)
  · rfl

theorem hasWorker_of_unbusy {tasks : List (Table × TableTask)}
    (staff : 0 < crew.scheduler.tableWorkers)
    (unbusy : ¬ ∃ held ∈ tasks, held.2.isBusy = true) (task : TableTask) :
    crew.hasWorker tasks task .take = true := by
  have none : tasks.countP (·.2.isBusy) = 0 :=
    List.countP_eq_zero.mpr fun held member busy => unbusy ⟨held, member, busy⟩
  rw [hasWorker, none]
  exact decide_eq_true staff

/-- **A scan never comes to a standstill** before it has an answer. -/
theorem exists_answer_or_move (staff : 0 < crew.scheduler.tableWorkers) (floor : Floor σ) :
    (∃ answer, floor.task = .settled answer) ∨ ∃ move, (crew.move? move floor).isSome = true := by
  obtain ⟨stage, task⟩ := floor
  cases task with
  | settled answer => exact .inl ⟨answer, rfl⟩
  | waiting =>
    right
    refine ⟨.start, ?_⟩
    rcases ran : runOn crew.start stage with ⟨answer, after⟩
    cases answer with
    | ok task => simp only [move?, ran, Option.isSome_some]
    | error fault => simp only [move?, ran, Option.isSome_some]
  | scanning started failures tasks =>
    right
    by_cases offers : ∃ held ∈ tasks, ∃ seen ∈ held.2.looks, seen.2.isBusy = true
    · obtain ⟨held, member, seen, inside, busy⟩ := offers
      obtain ⟨index, moves⟩ := exists_offer crew held.1 inside busy stage
      exact exists_move_of_table member rfl moves
    -- From here on every worker for partitions is free, and then every worker for tables as well.
    have idle : ∀ held ∈ tasks, ∀ seen ∈ held.2.looks, ¬ seen.2.isBusy = true :=
      fun held member seen inside busy => offers ⟨held, member, seen, inside, busy⟩
    by_cases looks : ∃ held ∈ tasks, held.2.isBusy = true
    · obtain ⟨held, member, busy⟩ := looks
      rcases exists_look_or_finish crew held.1 busy (idle held member) stage with
        ⟨index, moves⟩ | moves
      · exact exists_move_of_table member (hasWorker_of_idle member idle index) moves
      · exact exists_move_of_table member rfl moves
    by_cases waits : ∃ held ∈ tasks, held.2 = .waiting
    · obtain ⟨held, member, waiting⟩ := waits
      refine exists_move_of_table member (hasWorker_of_unbusy staff looks held.2) ?_
      rw [waiting]
      rfl
    · have all : ∀ answer ∈ tasks.map (·.2.answer?), answer.isSome = true := by
        intro answer member
        obtain ⟨held, inside, rfl⟩ := List.mem_map.mp member
        cases task : held.2 with
        | waiting => exact absurd ⟨held, inside, task⟩ waits
        | looking => exact absurd ⟨held, inside, by rw [task]; rfl⟩ looks
        | settled => rfl
      obtain ⟨answer, gathered⟩ := exists_gather all
      refine ⟨.conclude, ?_⟩
      cases answer with
      | ok outcomes => simp only [move?, gathered, Option.isSome_some]
      | error fault => simp only [move?, gathered, Option.isSome_some]

end Progress

end Crew

/-- **A scan by several workers answers as a scan by one.** On services that show a view, let any
number of workers for tables and for partitions make their moves in any order. There are only so
many moves to make; a scan without an answer has a move left; and its answer is that of the scan by
one worker of each kind. -/
theorem plays_end_as_run {σ : Type} {scheduler : Scheduler σ} {ready : σ → Prop} {view : View}
    (shows : scheduler.services.Shows ready view) (selector : Selector) (priors : Watermarks)
    (now maxWorkers partitionWorkers : Int) (stage alone : Stage σ) (met : ready stage.outside)
    (metAlone : ready alone.outside) :
    ∃ bound, ∀ moves floor,
      (Crew.staffed scheduler selector priors now maxWorkers partitionWorkers).play? moves
        { stage } = some floor →
      moves.length ≤ bound ∧
      ((∃ answer, floor.task = .settled answer) ∨ ∃ move,
        ((Crew.staffed scheduler selector priors now maxWorkers partitionWorkers).move? move
          floor).isSome = true) ∧
      ∀ answer, floor.task = .settled answer →
        answer = (runOn (Scan.run { scheduler with tableWorkers := 1, partitionWorkers := 1 }
          selector priors now) alone).1 := by
  obtain ⟨crew, same⟩ : ∃ crew, crew =
    Crew.staffed scheduler selector priors now maxWorkers partitionWorkers := ⟨_, rfl⟩
  have showsCrew : crew.scheduler.services.Shows ready view := by
    rw [same]
    exact shows
  have showsAlone : ({ scheduler with tableWorkers := 1, partitionWorkers := 1 } :
      Scheduler σ).services.Shows ready view := shows
  rw [← same]
  refine ⟨crew.scanWeight view .waiting, fun moves floor played => ?_⟩
  have begins : crew.ScanAgrees view .waiting := trivial
  obtain ⟨agrees, bounded⟩ := Crew.play?_agrees showsCrew begins met played
  refine ⟨Nat.le_of_add_right_le bounded, ?_, fun answer finished => ?_⟩
  · refine Crew.exists_answer_or_move ?_ floor
    rw [same]
    exact Nat.lt_of_lt_of_le Nat.zero_lt_one (Nat.le_max_left 1 _)
  · rw [finished] at agrees
    rw [(View.run_gives showsAlone selector priors now alone metAlone).1]
    rw [same] at agrees
    exact agrees

namespace Site

/-- Two workers for tables and two for partitions scan the shop: the customers are dealt with while
the orders are looked at, and the later day is offered before the earlier one. -/
def interleaving : List Move :=
  [.start, .table 0 .take, .table 0 (.look 1), .table 2 .take, .table 0 (.look 0),
    .table 0 (.offer 1), .table 0 (.look 3), .table 0 (.offer 0), .table 0 (.look 2),
    .table 0 (.offer 3), .table 1 .take, .table 0 (.offer 2), .table 0 .finish, .conclude]

/-- The update times of the work, once a scan has a result. -/
def workTimes? (floor : Floor Site) : Option (List Int) :=
  match floor.task with
  | .settled (.ok result) => some (result.work.map (·.updateTime))
  | .settled (.error _) | .waiting | .scanning .. => none

end Site

/-- Two workers of each kind find in the shop what one of each finds. -/
theorem interleaved_scan_of_shop :
    ∃ floor result,
      (Crew.staffed (Site.shopScheduler UpdateTimeSource.creationTime) .everything []
        5000 2 2).play? Site.interleaving { stage := { outside := Site.shop [] } } = some floor ∧
      floor.task = .settled (.ok result) ∧
      result.work.map (·.updateTime) = [1000, 2000, 3000] ∧
      (runOn (Scan.run { Site.shopScheduler UpdateTimeSource.creationTime with
          tableWorkers := 1, partitionWorkers := 1 } .everything [] 5000)
        { outside := Site.shop [] }).1 = .ok result := by
  obtain ⟨bound, plays⟩ := plays_end_as_run
    (Site.shopScheduler_shows [] UpdateTimeSource.creationTime) .everything [] 5000 2 2
    { outside := Site.shop [] } { outside := Site.shop [] } (Site.shop_open []) (Site.shop_open [])
  have times : ((Crew.staffed (Site.shopScheduler UpdateTimeSource.creationTime) .everything []
      5000 2 2).play? Site.interleaving { stage := { outside := Site.shop [] } }).bind
        Site.workTimes? = some [1000, 2000, 3000] := by
    decide +kernel
  obtain ⟨floor, played, ended⟩ := Option.bind_eq_some_iff.mp times
  obtain ⟨_, _, answered⟩ := plays Site.interleaving floor played
  clear times
  unfold Site.workTimes? at ended
  split at ended
  · rename_i result finished
    exact ⟨floor, result, played, finished, Option.some.inj ended, (answered _ finished).symm⟩
  · exact nomatch ended
  · exact nomatch ended
  · exact nomatch ended

end CatalogDelta
