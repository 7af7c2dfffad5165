import CatalogDelta.Proofs.Pool.Recorded
import CatalogDelta.Proofs.Scan.Conversation
import CatalogDelta.Proofs.Scan.Independence

/-!
# What escapes a scan

A scan on an open pool with a free slot ends with a fault exactly if the making of a client fails or
the connection of a client is lost. Every other failure is recorded and the scan goes on to ask what
is left to ask. Either way the pool stands as it stood before. Main statement:
`request_fails_iff_lost`.
-/

namespace CatalogDelta

open Act

/-- Services that lease from a host. Their source of update times is on record and leaves the pool
alone, and nobody notices their clock. -/
structure ScanServices.DrawOn {σ κ : Type} [DecidableEq κ] (services : ScanServices σ)
    (host : Pool.Host σ κ) (heard : σ → List Exchange) (base : σ → Prop) : Prop where
  lease : ∀ {α : Type} (work : Client σ → Act σ α), services.lease work = host.lease work
  updateTime : ∀ entity,
    Speaks heard base host.pool (services.updateTime entity) (.updateTime entity)
  clock : ∀ before pool,
    Returns (fun outside => heard outside = before ∧ base outside ∧ host.pool outside = pool)
      services.clock

section Escape

variable {σ κ : Type} [DecidableEq κ] {host : Pool.Host σ κ} {heard : σ → List Exchange}
  {base : σ → Prop} {free inUse : Nat}

theorem ScanServices.DrawOn.talks {services : ScanServices σ}
    (draw : services.DrawOn host heard base) (records : host.Records heard base) :
    services.Talks heard (host.At base (free + 1) inUse) where
  lease work after works := by
    rw [draw.lease]
    exact Pool.Host.lease_converses records works
  updateTime entity :=
    (draw.updateTime entity).converses (Pool.Stands (free + 1) inUse) fun _ _ lost => nomatch lost
  clock := by
    intro stage met
    obtain ⟨now, given, same, still, kept⟩ := draw.clock _ _ stage ⟨rfl, met.1, rfl⟩
    refine ⟨[], ?_, ⟨still, ?_⟩, .inl ⟨?_, now, given, rfl⟩⟩
    · rw [same, List.append_nil]
    · rw [kept]
      exact met.2
    · exact fun _ member => absurd member List.not_mem_nil

/-- A scan that is asked for accounts for all it says. -/
theorem request_converses {ready : σ → Prop} {scheduler : Scheduler σ}
    (talks : scheduler.services.Talks heard ready) {prior : List (WatermarkKey × Data)}
    {priors : Watermarks} (understood : Watermarks.read prior = .ok priors) (now : Option Int)
    (selector : Option Selector) :
    Converses heard ready (Scan.request scheduler prior (now.elim .null .int) selector)
      (Clears (selector.getD scheduler.selector) scheduler.rules [.databases] (·.failures)) := by
  have timed : Converses heard ready (Scan.timeOf scheduler (now.elim .null .int))
      (Answered fun talk _ => talk = []) := by
    cases now with
    | none => exact talks.clock
    | some now => exact converses_pure now ⟨now, rfl, rfl⟩
  unfold Scan.request
  refine timed.bind_answer ?_
  rintro _ now rfl
  exact .after_settle understood (run_converses talks _ priors now)

/-- **Only lost connections escape a scan.** -/
theorem request_fails_iff_lost (records : host.Records heard base) {scheduler : Scheduler σ}
    (draw : scheduler.services.DrawOn host heard base) {prior : List (WatermarkKey × Data)}
    {priors : Watermarks} (understood : Watermarks.read prior = .ok priors) (now : Option Int)
    (selector : Option Selector) (stage : Stage σ) {ended : Stage σ}
    {answer : Except Fault ScanResult} (met : host.At base (free + 1) inUse stage.outside)
    (ran : runOn (Scan.request scheduler prior (now.elim .null .int) selector) stage =
      (answer, ended)) :
    ∃ talk, heard ended.outside = heard stage.outside ++ talk ∧
      (∀ fault, answer = .error fault ↔ ∃ exchange ∈ talk, exchange.loss? = some fault) ∧
      (∀ fault, answer = .error fault → fault.kind.isA .connectionFailure = true) ∧
      (∀ result, answer = .ok result →
        result.failures = talk.filterMap Exchange.failure? ∧
        (talk.filterMap Exchange.question?).Perm
          (.databases :: talk.flatMap
            (Exchange.leadsTo (selector.getD scheduler.selector) scheduler.rules))) ∧
      host.At base (free + 1) inUse ended.outside := by
  obtain ⟨talk, added, back, settled⟩ :=
    request_converses (draw.talks records) understood now selector stage met
  rw [ran] at added back settled
  refine ⟨talk, added, ?_, ?_, ?_, back⟩
  · rcases settled with ⟨calm, result, rfl, _⟩ | ⟨lostFault, rfl, lost⟩
    · intro fault
      refine ⟨nofun, ?_⟩
      rintro ⟨exchange, member, loss⟩
      rw [calm exchange member] at loss
      contradiction
    · intro fault
      rw [lost.exists_loss?_iff, Except.error.injEq, eq_comm]
  · rintro fault rfl
    rcases settled with ⟨_, result, failed, _⟩ | ⟨lostFault, same, lost⟩
    · contradiction
    · obtain ⟨_, last, _, _, loss⟩ := lost
      rw [Except.error.inj same]
      exact Exchange.isA_of_loss? loss
  · rintro result rfl
    rcases settled with ⟨_, given, same, account⟩ | ⟨_, failed, _⟩
    · obtain rfl := Except.ok.inj same
      refine ⟨account.failures_eq.symm, ?_⟩
      simpa only [List.append_nil, List.singleton_append] using account.questions
    · contradiction

end Escape

/-- Services on record draw on their host, if their source of update times answers by a view. -/
theorem servicesOnRecord_drawOn {σ κ : Type} [DecidableEq κ] {host : Pool.Host σ κ}
    {base : σ → Prop} {view : View} {services : ScanServices σ} (sound : view.Sound)
    (updateTime : ∀ entity pool,
      Gives (fun outside => base outside ∧ host.pool outside = pool) (services.updateTime entity)
        (view.updateTime entity))
    (clock : ∀ pool,
      Returns (fun outside => base outside ∧ host.pool outside = pool) services.clock) :
    (host.servicesOnRecord services).DrawOn host.onRecord Recorded.heard
      (fun outside => base outside.inner) where
  lease _ := rfl
  updateTime entity := onRecord_speaks (updateTime entity) (sound.updateTime entity)
  clock before pool := by
    intro stage met
    obtain ⟨now, given, still, kept⟩ :=
      clock pool ⟨stage.outside.inner, stage.journal⟩ ⟨met.2.1, met.2.2⟩
    exact ⟨now, given, (List.append_nil _).trans met.1, still, kept⟩

/-- A catalog that stores everything where things can be stored, with a source of update times that
fails only for want of one. -/
theorem Catalog.view_sound {catalog : Catalog} {faults : OrderedMap CatalogCall Fault}
    {updateTime : Entity → Except Fault Int}
    (tables : ∀ entry ∈ catalog.databases, ∀ table ∈ OrderedMap.values entry.2,
      Placed table.location)
    (partitions : ∀ entry ∈ catalog.partitions, ∀ partition ∈ entry.2,
      Placed partition.location)
    (times : ∀ entity fault, updateTime entity = .error fault →
      fault.kind.isA .updateTimeNotFound = true) :
    (catalog.view faults updateTime).Sound where
  tables database := by
    change (Exchange.tables database
      (answer faults (.tables database) (catalog.listTables database))).Sound
    unfold answer listTables
    cases OrderedMap.get? (.tables database) faults with
    | some fault => trivial
    | none =>
      cases found : OrderedMap.get? database catalog.databases with
      | none => trivial
      | some listed => exact tables _ (OrderedMap.mem_of_get? found)
  partitions table := by
    change (Exchange.partitions table
      (answer faults (.partitions table.dataset) (catalog.listPartitions table.dataset))).Sound
    unfold answer listPartitions
    cases OrderedMap.get? (.partitions table.dataset) faults with
    | some fault => trivial
    | none =>
      cases found : OrderedMap.get? table.dataset catalog.partitions with
      | none => trivial
      | some listed => exact partitions _ (OrderedMap.mem_of_get? found)
  updateTime entity := by
    change (Exchange.updateTime entity (updateTime entity)).Sound
    cases known : updateTime entity with
    | ok millis => trivial
    | error fault => exact times entity fault known

namespace Site

/-- Every entity was updated at the same time, but the update time of the customers is not found. -/
def atOnce (entity : Entity) : Except Fault Int :=
  if entity.describe = "sales@customers" then
    .error (.report { kind := .updateTimeNotFound, message := "No update time for the moment" })
  else .ok 3000

/-- The tables of the annex and the partitions of the orders cannot be listed. -/
def twoFaults : OrderedMap CatalogCall Fault :=
  [(.tables "annex", .foreign .system "The annex is closed"),
    (.partitions ⟨"sales", "orders"⟩, .foreign .runtime "The orders are being moved")]

/-- The connection is lost when the partitions of the orders are listed. -/
def lostOrders : OrderedMap CatalogCall Fault :=
  [(.tables "annex", .foreign .system "The annex is closed"),
    (.partitions ⟨"sales", "orders"⟩, .connectionFailure "The catalog has gone away")]

/-- The shop with its annex, on record. -/
def annexOnRecord (faults : OrderedMap CatalogCall Fault) : Recorded Site where
  inner := { catalog := .annexed, troubles := .lasting faults }

def schedulerOnRecord : Scheduler (Recorded Site) where
  services := (host (clients "shop")).servicesOnRecord (servicesAt "shop" atOnce)
  selector := .everything
  rules := .make {} true ["_tmp"]

theorem annexed_sound (faults : OrderedMap CatalogCall Fault) :
    (Catalog.annexed.view faults atOnce).Sound := by
  refine Catalog.view_sound (by decide +kernel) (by decide +kernel) fun entity fault failed => ?_
  unfold atOnce at failed
  split at failed
  · cases failed
    rfl
  · contradiction

theorem schedulerOnRecord_drawOn (faults : OrderedMap CatalogCall Fault) :
    schedulerOnRecord.services.DrawOn (host (clients "shop")).onRecord Recorded.heard
      fun outside => Offers .annexed faults outside.inner :=
  servicesOnRecord_drawOn (annexed_sound faults) (fun _ _ => gives_settle _)
    fun _ stage met => ⟨stage.outside.now, rfl, met⟩

end Site

/-- In the shop with its annex, three failures of different kinds are recorded, and a lost
connection escapes. -/
theorem annexed_shop_fails_iff_lost :
    (∃ result ended,
      runOn (Scan.request Site.schedulerOnRecord [] (.int 5000))
        { outside := Site.annexOnRecord Site.twoFaults } = (.ok result, ended) ∧
      result.failures.map (·.entity) = ["annex", "sales@orders", "sales@customers"] ∧
      result.failures = ended.outside.heard.filterMap Exchange.failure?) ∧
    ∃ fault ended,
      runOn (Scan.request Site.schedulerOnRecord [] (.int 5000))
        { outside := Site.annexOnRecord Site.lostOrders } = (.error fault, ended) ∧
      fault.kind.isA .connectionFailure = true ∧
      ∃ exchange ∈ ended.outside.heard, exchange.loss? = some fault := by
  have met (faults : OrderedMap CatalogCall Fault) :
      (Site.host (Site.clients "shop")).onRecord.At
        (fun outside => Site.Offers .annexed faults outside.inner) 1 0
        (Site.annexOnRecord faults) := ⟨⟨rfl, rfl, rfl⟩, ⟨rfl, rfl, rfl⟩⟩
  have records (faults : OrderedMap CatalogCall Fault) :
      (Site.host (Site.clients "shop")).onRecord.Records Recorded.heard
        fun outside => Site.Offers .annexed faults outside.inner :=
    (Site.serves "shop").onRecord (Site.annexed_sound faults)
  have understood : Watermarks.read [] = .ok [] := rfl
  constructor
  · have entities : (runOn (Scan.request Site.schedulerOnRecord [] (.int 5000))
        { outside := Site.annexOnRecord Site.twoFaults }).1.toOption.map
          (·.failures.map (·.entity)) = some ["annex", "sales@orders", "sales@customers"] := by
      decide +kernel
    obtain ⟨answer, ended, ran⟩ : ∃ answer ended,
        runOn (Scan.request Site.schedulerOnRecord [] (.int 5000))
          { outside := Site.annexOnRecord Site.twoFaults } = (answer, ended) :=
      ⟨_, _, (Prod.eta _).symm⟩
    obtain ⟨talk, added, _, _, recorded, _⟩ := request_fails_iff_lost (records Site.twoFaults)
      (Site.schedulerOnRecord_drawOn Site.twoFaults) understood (some 5000) none
      { outside := Site.annexOnRecord Site.twoFaults } (met Site.twoFaults) ran
    rw [ran] at entities
    cases answer with
    | error fault => exact nomatch entities
    | ok result =>
      refine ⟨result, ended, ran, Option.some.inj entities, ?_⟩
      rw [added]
      exact (recorded result rfl).1
  · have fails : (runOn (Scan.request Site.schedulerOnRecord [] (.int 5000))
        { outside := Site.annexOnRecord Site.lostOrders }).1.toOption.isNone = true := by
      decide +kernel
    obtain ⟨answer, ended, ran⟩ : ∃ answer ended,
        runOn (Scan.request Site.schedulerOnRecord [] (.int 5000))
          { outside := Site.annexOnRecord Site.lostOrders } = (answer, ended) :=
      ⟨_, _, (Prod.eta _).symm⟩
    obtain ⟨talk, added, ends, connection, _⟩ := request_fails_iff_lost (records Site.lostOrders)
      (Site.schedulerOnRecord_drawOn Site.lostOrders) understood (some 5000) none
      { outside := Site.annexOnRecord Site.lostOrders } (met Site.lostOrders) ran
    rw [ran] at fails
    cases answer with
    | ok result => exact nomatch fails
    | error fault =>
      refine ⟨fault, ended, ran, connection fault rfl, ?_⟩
      rw [added]
      exact (ends fault).mp rfl

end CatalogDelta
