import CatalogDelta.Proofs.OrderedMap
import CatalogDelta.Proofs.Retry
import CatalogDelta.Proofs.Scan.Run
import CatalogDelta.Proofs.Site.Services
import CatalogDelta.Settings.Basic

/-!
# Scans with retries

Let the calls to the catalog of a site fail fewer times than they may be made, with faults of the
system. A scan whose client makes its calls again does not notice; and where calls fail for ever,
such a scan ends as it would without retries. Main statement: `retried_scan`.
-/

namespace CatalogDelta

open Act

namespace TroublePlan

variable {plan : TroublePlan} {config : RetryConfig} {made : CatalogCall}

/-- How often a call is still going to fail; calls that fail for ever are not counted. -/
def timesLeft (plan : TroublePlan) (made : CatalogCall) : Nat :=
  match OrderedMap.get? made plan with
  | some ⟨_, some left⟩ => left
  | _ => 0

/-- Every fault is one of the system and strikes fewer times than a call may be made. -/
def Passing (config : RetryConfig) (plan : TroublePlan) : Prop :=
  ∀ call trouble, OrderedMap.get? call plan = some trouble →
    trouble.fault.kind.isA .system = true ∧
      ∃ times, trouble.left = some times ∧ (times : Int) < config.maxAttempts

theorem Passing.timesLeft_lt (passing : plan.Passing config) (made : CatalogCall) :
    plan.timesLeft made = 0 ∨ (plan.timesLeft made : Int) < config.maxAttempts := by
  unfold timesLeft
  split
  · rename_i fault left struck
    obtain ⟨_, times, same, fewer⟩ := passing made _ struck
    cases same
    exact .inr fewer
  · exact .inl rfl

/-- What is left of a plan after a call. -/
theorem Passing.strike_of_zero (passing : plan.Passing config) (none : plan.timesLeft made = 0) :
    plan.strike made = (.none, plan) := by
  unfold timesLeft at none
  unfold strike
  cases struck : OrderedMap.get? made plan with
  | none => rfl
  | some trouble =>
    obtain ⟨_, times, same, _⟩ := passing made trouble struck
    obtain ⟨fault, left⟩ := trouble
    cases same
    rw [struck] at none
    cases none
    rfl

theorem Passing.strike_of_succ (passing : plan.Passing config) {times : Nat}
    (more : plan.timesLeft made = times + 1) :
    ∃ fault after, plan.strike made = (some fault, after) ∧ fault.kind.isA .system = true ∧
      after.Passing config ∧ after.timesLeft made = times := by
  unfold timesLeft at more
  cases struck : OrderedMap.get? made plan with
  | none =>
    rw [struck] at more
    contradiction
  | some trouble =>
    obtain ⟨ofSystem, left, same, fewer⟩ := passing made trouble struck
    obtain ⟨fault, _⟩ := trouble
    cases same
    rw [struck] at more
    obtain rfl : left = times + 1 := more
    refine ⟨fault, OrderedMap.put made ⟨fault, some times⟩ plan, ?_, ofSystem, ?_, ?_⟩
    · unfold strike
      rw [struck]
    · intro call trouble found
      rw [OrderedMap.get?_put] at found
      split at found
      · cases found
        exact ⟨ofSystem, times, rfl, by omega⟩
      · exact passing call trouble found
    · rw [timesLeft, OrderedMap.get?_put, if_pos rfl]

end TroublePlan

theorem Retry.covers_of_system {σ : Type} {config : RetryConfig} {pause : Float → Act σ Unit}
    {fault : Fault} (ofSystem : fault.kind.isA .system = true) :
    Rule.covers ⟨config, passingKinds, pause⟩ fault = true := by
  simp only [Rule.covers, passingKinds, List.any_cons, ofSystem, Bool.true_or]

namespace Site

/-- Clients that make their calls again. -/
def retried (repeater : Repeater) (config : RetryConfig) (setup : PoolSetup) : PoolSetup :=
  { setup with client := Retry.client repeater ⟨config, Retry.passingKinds, pause⟩ setup.client }

/-- The site has the catalog, the troubles of its calls pass, and its factory makes a client
whenever it is asked. -/
structure Recovers (catalog : Catalog) (config : RetryConfig) (site : Site) : Prop where
  catalog_eq : site.catalog = catalog
  passing : site.troubles.Passing config
  script_eq : site.factory.script = []

variable {repeater : Repeater} {catalog : Catalog} {config : RetryConfig} {pool : Pool String}
  {updateTime : Entity → Except Fault Int} {faults : OrderedMap CatalogCall Fault}

/-- A call settles on what the catalog answers once its troubles are over. -/
theorem call_settles {α : Type} {act : Act Site α} {settled : Except Fault α} (made : CatalogCall)
    (given : ∀ stage, stage.outside.catalog = catalog → runOn act stage = (settled, stage)) :
    Retry.Settles (Retry.Rule.covers ⟨config, Retry.passingKinds, pause⟩)
      (fun site => site.Recovers catalog config ∧ site.pool = pool)
      (fun site => site.troubles.timesLeft made) (troubleBook.call made act) settled where
  fails stage met times more := by
    obtain ⟨⟨catalog_eq, passing, script_eq⟩, pool_eq⟩ := met
    obtain ⟨fault, after, struck, ofSystem, still, fewer⟩ := passing.strike_of_succ more
    simp only [TroubleBook.call, runOn_bind, runOn_change, runOn_view, troubleBook, struck]
    exact ⟨fault, rfl, Retry.covers_of_system ofSystem, ⟨⟨catalog_eq, still, script_eq⟩, pool_eq⟩,
      fewer⟩
  answers stage met none := by
    obtain ⟨⟨catalog_eq, passing, script_eq⟩, pool_eq⟩ := met
    have struck := passing.strike_of_zero none
    simp only [TroubleBook.call, runOn_bind, runOn_change, runOn_view, troubleBook, struck]
    rw [given]
    · exact ⟨rfl, ⟨⟨catalog_eq, passing, script_eq⟩, pool_eq⟩, none⟩
    · exact catalog_eq

theorem pause_calm (made : CatalogCall) (seconds : Float) (times : Nat) :
    Returns (Retry.StillFails (fun site => site.Recovers catalog config ∧ site.pool = pool)
      (fun site => site.troubles.timesLeft made) times) (pause seconds) :=
  fun _ met =>
    ⟨(), rfl, ⟨⟨met.1.1.catalog_eq, met.1.1.passing, met.1.1.script_eq⟩, met.1.2⟩, met.2⟩

theorem pause_calm_of_offers (seconds : Float) (times : Nat) :
    Returns (Retry.StillFails (fun site => site.Offers catalog faults ∧ site.pool = pool)
      (fun _ => 0) times) (pause seconds) :=
  fun _ met =>
    ⟨(), rfl, ⟨⟨met.1.1.catalog_eq, met.1.1.troubles_eq, met.1.1.script_eq⟩, met.1.2⟩, met.2⟩

/-- A client that makes its calls again shows the catalog without its passing troubles. -/
theorem retried_shows (lawful : repeater.Lawful) (config : RetryConfig) (kind : String)
    (pool : Pool String) : (retried repeater config (clients kind)).client.Shows
      (fun site => site.Recovers catalog config ∧ site.pool = pool)
      (catalog.view [] updateTime) := by
  have settle {α : Type} {act : Act Site α} {settled : Except Fault α} (made : CatalogCall)
      (name : String)
      (given : ∀ stage, stage.outside.catalog = catalog → runOn act stage = (settled, stage)) :
      Gives (fun site => site.Recovers catalog config ∧ site.pool = pool)
        (Retry.call repeater ⟨config, Retry.passingKinds, pause⟩ name
          (troubleBook.call made act)) settled :=
    Retry.call_gives lawful (call_settles made given) (pause_calm made)
      (fun site met => met.1.passing.timesLeft_lt made) name
  refine ⟨settle .databases _ fun stage same => ?_, fun database => settle (.tables database) _
    fun stage same => ?_, fun table => settle (.partitions table.dataset) _ fun stage same => ?_⟩
  · rw [← same]
    rfl
  · simp only [Catalog.client, runOn_bind, runOn_view, runOn_settle, same]
    rfl
  · simp only [Catalog.client, runOn_bind, runOn_view, runOn_settle, same]
    rfl

/-- A client that makes its calls again shows whatever fails for ever. -/
theorem retried_shows_lasting (lawful : repeater.Lawful) (config : RetryConfig) (kind : String)
    (pool : Pool String) : (retried repeater config (clients kind)).client.Shows
      (fun site => site.Offers catalog faults ∧ site.pool = pool)
      (catalog.view faults updateTime) := by
  have settle {α : Type} {call : Act Site α} {answer : Except Fault α} (name : String)
      (given : Gives (fun site => site.Offers catalog faults ∧ site.pool = pool) call answer) :
      Gives (fun site => site.Offers catalog faults ∧ site.pool = pool)
        (Retry.call repeater ⟨config, Retry.passingKinds, pause⟩ name call) answer :=
    Retry.call_gives lawful (.of_gives given) pause_calm_of_offers (fun _ _ => .inl rfl) name
  have shows : (client kind).Shows (fun site => site.Offers catalog faults ∧ site.pool = pool)
      (catalog.view faults updateTime) := client_shows kind pool
  exact ⟨settle _ shows.databases, fun database => settle _ (shows.tables database),
    fun table => settle _ (shows.partitions table)⟩

/-- Making a client changes nothing but the factory. -/
theorem runOn_askFactory (setup : PoolSetup) {stage : Stage Site}
    (script_eq : stage.outside.factory.script = []) :
    ∃ client factory, factory.script = [] ∧
      runOn (askFactory setup) stage =
        (.ok client, { stage with outside := { stage.outside with factory } }) := by
  have next : stage.outside.factory.next =
      (.client, { stage.outside.factory with asked := stage.outside.factory.asked + 1 }) := by
    simp [Factory.next, script_eq]
  simp only [askFactory, makeClient, runOn_bind, runOn_view, runOn_change, runOn_pure, next]
  have script := Factory.script_make
    { stage.outside.factory with asked := stage.outside.factory.asked + 1 }
  exact ⟨_, _, script.trans script_eq, rfl⟩

theorem retried_serves (lawful : repeater.Lawful) (config : RetryConfig) (kind : String) :
    (host (retried repeater config (clients kind))).Serves (Recovers catalog config)
      (catalog.view [] updateTime) where
  pool_setPool _ _ := rfl
  base_setPool _ _ recovers := ⟨recovers.catalog_eq, recovers.passing, recovers.script_eq⟩
  make pool := by
    rintro stage ⟨⟨catalog_eq, passing, script_eq⟩, pool_eq⟩
    obtain ⟨client, factory, script, asked⟩ :=
      runOn_askFactory (retried repeater config (clients kind)) script_eq
    have made : runOn (host (retried repeater config (clients kind))).make stage =
      (.ok client, { stage with outside := { stage.outside with factory } }) := asked
    refine ⟨client, ?_⟩
    rw [made]
    exact ⟨rfl, ⟨catalog_eq, passing, script⟩, pool_eq⟩
  client _ pool :=
    have shows := retried_shows lawful config kind pool
    ⟨shows.databases, shows.tables, shows.partitions⟩

theorem retried_serves_lasting (lawful : repeater.Lawful) (config : RetryConfig)
    (kind : String) :
    (host (retried repeater config (clients kind))).Serves (Offers catalog faults)
      (catalog.view faults updateTime) where
  pool_setPool _ _ := rfl
  base_setPool _ _ offers := ⟨offers.catalog_eq, offers.troubles_eq, offers.script_eq⟩
  make := make_returns kind
  client _ pool :=
    have shows := retried_shows_lasting lawful config kind pool
    ⟨shows.databases, shows.tables, shows.partitions⟩

/-- The services of a site with given clients, and with update times settled beforehand. -/
def servicesOver (setup : PoolSetup) (updateTime : Entity → Except Fault Int) :
    ScanServices Site :=
  { services setup (.creation []) with
    updateTime := fun entity => settle (updateTime entity) }

theorem servicesOver_show {setup : PoolSetup} {base : Site → Prop} {view : View}
    (serves : (host setup).Serves base view) (free inUse : Nat) :
    (servicesOver setup view.updateTime).Shows ((host setup).At base (free + 1) inUse) view where
  lease _ _ works := Pool.Host.lease_gives serves works
  updateTime _ := gives_settle _
  clock := fun stage met => ⟨stage.outside.now, rfl, met⟩

/-- The pool of the site is open and has a free slot. -/
def HasRoom (site : Site) : Prop := site.pool.closed = false ∧ 0 < site.pool.free

theorem HasRoom.stands {site : Site} (room : site.HasRoom) :
    site.pool.Stands (site.pool.free - 1 + 1) site.pool.inUse :=
  ⟨room.1, by have := room.2; omega, rfl⟩

/-- A scan by a plan at a time, with given clients and update times settled beforehand. -/
def scanBy (plan : Settings.Plan) (setup : PoolSetup) (updateTime : Entity → Except Fault Int)
    (prior : List (WatermarkKey × Data)) (now : Int) (selector : Option Selector) :
    Act Site ScanResult :=
  Scan.request (plan.scheduler fun _ => servicesOver setup updateTime) prior (.int now) selector

/-- What a scan by a plan answers where the services show a view. -/
theorem scanBy_eq {setup : PoolSetup} {base : Site → Prop} {view : View}
    (serves : (host setup).Serves base view) (plan : Settings.Plan)
    (prior : List (WatermarkKey × Data)) (now : Int) (selector : Option Selector)
    {stage : Stage Site} (room : stage.outside.HasRoom) (met : base stage.outside) :
    (runOn (scanBy plan setup view.updateTime prior now selector) stage).1 =
      (Watermarks.read prior >>= fun priors =>
        verdict (view.fault? plan.rules (selector.getD plan.selector))
          ((view.survey plan.rules (selector.getD plan.selector)).result plan.rules priors
            now)) := by
  have shows := servicesOver_show serves (stage.outside.pool.free - 1) stage.outside.pool.inUse
  have ready : (host setup).At base (stage.outside.pool.free - 1 + 1) stage.outside.pool.inUse
      stage.outside := ⟨met, room.stands⟩
  unfold scanBy
  cases understood : Watermarks.read prior with
  | ok priors => exact (View.request_gives shows understood now selector stage ready).1
  | error fault =>
    unfold Scan.request
    rw [understood]
    rfl

/-- **Retries hide faults that pass, and nothing else**, whoever repeats the calls. A scan whose
client makes its calls again answers on a site whose troubles pass as a scan does without retries on
a site with the same catalog and no troubles. Where calls fail for ever, it answers as it would
without retries. -/
theorem retried_scan {repeater : Repeater} (lawful : repeater.Lawful) (config : RetryConfig)
    (kind : String) (plan : Settings.Plan) (updateTime : Entity → Except Fault Int)
    (prior : List (WatermarkKey × Data)) (now : Int) (selector : Option Selector)
    (catalog : Catalog) :
    (∀ troubled calm : Stage Site,
      troubled.outside.HasRoom → troubled.outside.Recovers catalog config →
      calm.outside.HasRoom → calm.outside.Offers catalog [] →
        (runOn (scanBy plan (retried repeater config (clients kind)) updateTime prior now selector)
            troubled).1 =
          (runOn (scanBy plan (clients kind) updateTime prior now selector) calm).1) ∧
    (∀ (faults : OrderedMap CatalogCall Fault) (retrying bare : Stage Site),
      retrying.outside.HasRoom → retrying.outside.Offers catalog faults →
      bare.outside.HasRoom → bare.outside.Offers catalog faults →
        (runOn (scanBy plan (retried repeater config (clients kind)) updateTime prior now selector)
            retrying).1 =
          (runOn (scanBy plan (clients kind) updateTime prior now selector) bare).1) := by
  constructor
  · intro troubled calm room recovers otherRoom offers
    have retrying : (host (retried repeater config (clients kind))).Serves
        (Recovers catalog config) (catalog.view [] updateTime) := retried_serves lawful config kind
    have bare : (host (clients kind)).Serves (Offers catalog []) (catalog.view [] updateTime) :=
      serves kind
    exact (scanBy_eq retrying plan prior now selector room recovers).trans
      (scanBy_eq bare plan prior now selector otherRoom offers).symm
  · intro faults first second room offers otherRoom otherOffers
    have retrying : (host (retried repeater config (clients kind))).Serves (Offers catalog faults)
        (catalog.view faults updateTime) := retried_serves_lasting lawful config kind
    have bare : (host (clients kind)).Serves (Offers catalog faults)
      (catalog.view faults updateTime) := serves kind
    exact (scanBy_eq retrying plan prior now selector room offers).trans
      (scanBy_eq bare plan prior now selector otherRoom otherOffers).symm

/-- The plan by which the shop is scanned. -/
def shopPlan : Settings.Plan where
  selector := .everything
  source := .creation []
  rules := .make {} true ["_tmp"]
  tableWorkers := 1
  partitionWorkers := 1

/-- Two calls to the shop fail for a while. -/
def shakyShop : Site where
  catalog := .shop
  troubles := [(.databases, ⟨.foreign .timeout "slow", some 2⟩),
    (.tables "sales", ⟨.foreign .connectionReset "reset", some 1⟩)]

theorem shakyShop_recovers : shakyShop.Recovers .shop {} where
  catalog_eq := rfl
  passing call trouble struck := by
    have member := OrderedMap.mem_of_get? struck
    simp only [shakyShop, List.mem_cons, List.not_mem_nil, or_false, Prod.mk.injEq] at member
    rcases member with ⟨_, rfl⟩ | ⟨_, rfl⟩
    · exact ⟨by decide, 2, rfl, by decide⟩
    · exact ⟨by decide, 1, rfl, by decide⟩
  script_eq := rfl

/-- The tables of the shop cannot be listed. -/
def lockedShop : OrderedMap CatalogCall Fault := [(.tables "sales", .foreign .permission "denied")]

theorem shop_retried :
    (runOn (scanBy shopPlan (retried .usual {} (clients "shop")) UpdateTimeSource.creationTime []
        5 none) ⟨shakyShop, []⟩).1 =
      (runOn (scanBy shopPlan (clients "shop") UpdateTimeSource.creationTime [] 5 none)
        ⟨shop [], []⟩).1 ∧
    (runOn (scanBy shopPlan (retried .usual {} (clients "shop")) UpdateTimeSource.creationTime []
        5 none) ⟨shop lockedShop, []⟩).1 =
      (runOn (scanBy shopPlan (clients "shop") UpdateTimeSource.creationTime [] 5 none)
        ⟨shop lockedShop, []⟩).1 := by
  have room (faults : OrderedMap CatalogCall Fault) : (shop faults).HasRoom :=
    ⟨rfl, Nat.zero_lt_one⟩
  have offers (faults : OrderedMap CatalogCall Fault) : (shop faults).Offers .shop faults :=
    ⟨rfl, rfl, rfl⟩
  have shaky : shakyShop.HasRoom := ⟨rfl, Nat.zero_lt_one⟩
  obtain ⟨passing, lasting⟩ := retried_scan Repeater.usual_lawful {} "shop" shopPlan
    UpdateTimeSource.creationTime [] 5 none .shop
  exact ⟨passing _ _ shaky shakyShop_recovers (room []) (offers []),
    lasting _ _ _ (room _) (offers lockedShop) (room _) (offers lockedShop)⟩

end Site
end CatalogDelta
