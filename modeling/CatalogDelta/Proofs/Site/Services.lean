import CatalogDelta.Proofs.Pool.Lease
import CatalogDelta.Site.Services

/-!
# What the services of a site show

Let some calls to the catalog of a site fail for ever, and let its factory make clients. While the
pool of the site is open and has a free slot, the services of the site show its catalog with these
failures.
-/

namespace CatalogDelta

open Act

/-- The plan by which calls fail for ever. -/
def TroublePlan.lasting (faults : OrderedMap CatalogCall Fault) : TroublePlan :=
  faults.map fun (call, fault) => (call, { fault })

theorem TroublePlan.get?_lasting (faults : OrderedMap CatalogCall Fault) (call : CatalogCall) :
    OrderedMap.get? call (lasting faults) =
      (OrderedMap.get? call faults).map fun fault => { fault } := by
  induction faults with
  | nil => rfl
  | cons entry others ih =>
    obtain ⟨struck, fault⟩ := entry
    by_cases same : struck = call
    · simp [lasting, OrderedMap.get?, same]
    · simpa [lasting, OrderedMap.get?, same] using ih

theorem TroublePlan.strike_lasting (faults : OrderedMap CatalogCall Fault) (call : CatalogCall) :
    (lasting faults).strike call = (OrderedMap.get? call faults, lasting faults) := by
  unfold strike
  rw [get?_lasting]
  cases OrderedMap.get? call faults <;> rfl

theorem Factory.script_make (factory : Factory) : factory.make.2.script = factory.script := by
  unfold make
  cases factory.only <;> rfl

namespace Catalog

def answer {α : Type} (faults : OrderedMap CatalogCall Fault) (call : CatalogCall)
    (settled : Except Fault α) : Except Fault α :=
  match OrderedMap.get? call faults with
  | some fault => .error fault
  | none => settled

/-- The view of a catalog some of whose calls fail for ever. -/
def view (catalog : Catalog) (faults : OrderedMap CatalogCall Fault)
    (updateTime : Entity → Except Fault Int) : View where
  databases := answer faults .databases (.ok catalog.listDatabases)
  tables database := answer faults (.tables database) (catalog.listTables database)
  partitions table := answer faults (.partitions table.dataset)
    (catalog.listPartitions table.dataset)
  updateTime

end Catalog

namespace Site

/-- The site has the catalog, the calls of which fail for ever by the faults, and its factory makes
a client whenever it is asked. -/
structure Offers (catalog : Catalog) (faults : OrderedMap CatalogCall Fault) (site : Site) :
    Prop where
  catalog_eq : site.catalog = catalog
  troubles_eq : site.troubles = .lasting faults
  script_eq : site.factory.script = []

variable {catalog : Catalog} {faults : OrderedMap CatalogCall Fault}
  {updateTime : Entity → Except Fault Int}

theorem call_gives {α : Type} {pool : Pool String} {act : Act Site α} {settled : Except Fault α}
    (made : CatalogCall)
    (given : Gives (fun site => site.Offers catalog faults ∧ site.pool = pool) act settled) :
    Gives (fun site => site.Offers catalog faults ∧ site.pool = pool)
      (troubleBook.call made act) (Catalog.answer faults made settled) := by
  intro stage met
  obtain ⟨⟨catalog_eq, troubles_eq, script_eq⟩, pool_eq⟩ := met
  have struck := TroublePlan.strike_lasting faults made
  simp only [TroubleBook.call, runOn_bind, runOn_change, runOn_view, troubleBook, troubles_eq,
    struck, Catalog.answer]
  cases OrderedMap.get? made faults with
  | some fault => exact ⟨rfl, ⟨catalog_eq, rfl, script_eq⟩, pool_eq⟩
  | none => exact given _ ⟨⟨catalog_eq, rfl, script_eq⟩, pool_eq⟩

theorem client_shows (kind : String) (pool : Pool String) :
    (client kind).Shows (fun site => site.Offers catalog faults ∧ site.pool = pool)
      (catalog.view faults updateTime) where
  databases := by
    refine call_gives .databases fun stage met => ⟨?_, met⟩
    rw [← met.1.catalog_eq]
    rfl
  tables database := by
    refine call_gives (.tables database) fun stage met => ⟨?_, ?_⟩
    · simp only [Catalog.client, runOn_bind, runOn_view, runOn_settle, met.1.catalog_eq]
    · simp only [Catalog.client, runOn_bind, runOn_view, runOn_settle]
      exact met
  partitions table := by
    refine call_gives (.partitions table.dataset) fun stage met => ⟨?_, ?_⟩
    · simp only [Catalog.client, runOn_bind, runOn_view, runOn_settle, met.1.catalog_eq]
    · simp only [Catalog.client, runOn_bind, runOn_view, runOn_settle]
      exact met

def clients (kind : String) : PoolSetup where
  client := client kind
  patience := .null

theorem make_returns (kind : String) (pool : Pool String) :
    Returns (fun site => site.Offers catalog faults ∧ site.pool = pool)
      (askFactory (clients kind)) := by
  intro stage met
  obtain ⟨⟨catalog_eq, troubles_eq, script_eq⟩, pool_eq⟩ := met
  have next : stage.outside.factory.next =
      (.client, { stage.outside.factory with asked := stage.outside.factory.asked + 1 }) := by
    simp [Factory.next, script_eq]
  simp only [askFactory, makeClient, runOn_bind, runOn_view, runOn_change, runOn_pure, next]
  exact ⟨_, rfl, ⟨catalog_eq, troubles_eq, (Factory.script_make _).trans script_eq⟩, pool_eq⟩

theorem serves (kind : String) :
    (host (clients kind)).Serves (Offers catalog faults) (catalog.view faults updateTime) where
  pool_setPool _ _ := rfl
  base_setPool _ _ offers := ⟨offers.catalog_eq, offers.troubles_eq, offers.script_eq⟩
  make := make_returns kind
  client _ pool :=
    have shows := client_shows kind pool
    ⟨shows.databases, shows.tables, shows.partitions⟩

/-- The services of a site whose update times are settled beforehand. -/
def servicesAt (kind : String) (updateTime : Entity → Except Fault Int) : ScanServices Site :=
  { services (clients kind) (.creation []) with
    updateTime := fun entity => settle (updateTime entity) }

/-- **The services of a site show its catalog** while its pool is open and has a free slot. -/
theorem servicesAt_show (kind : String) (free inUse : Nat) :
    (servicesAt kind updateTime).Shows
      ((host (clients kind)).At (Offers catalog faults) (free + 1) inUse)
      (catalog.view faults updateTime) where
  lease _ _ works := Pool.Host.lease_gives (serves kind) works
  updateTime _ := gives_settle _
  clock := fun stage met => ⟨stage.outside.now, rfl, met⟩

end Site

/-- A shop with a table by days, one of which has no creation time and one of which is stored with
the temporary files, a table of temporary files, and a table as a whole. -/
def Catalog.shop : Catalog where
  databases := [("sales", [
    ("orders", { dataset := ⟨"sales", "orders"⟩, partitionKeys := [.text "day"] }),
    ("staging", { dataset := ⟨"sales", "staging"⟩, location := .text "lake/_tmp/staging",
                  createTime := .int 3 }),
    ("customers", { dataset := ⟨"sales", "customers"⟩, createTime := .int 3 })])]
  partitions := [(⟨"sales", "orders"⟩, [
    { table := ⟨"sales", "orders"⟩, values := ["mon"], createTime := .int 1 },
    { table := ⟨"sales", "orders"⟩, values := ["tue"], createTime := .int 2 },
    { table := ⟨"sales", "orders"⟩, values := ["wed"] },
    { table := ⟨"sales", "orders"⟩, values := ["thu"], createTime := .int 4,
      location := .text "lake/_tmp/thu" }])]

def Selector.everything : Selector where
  databases := { text := "*", caseRule := .ignored, rule := .globs [[.star]] }
  tables := { text := "*", caseRule := .ignored, rule := .globs [[.star]] }

namespace Site

/-- The site of the shop, some calls to which fail for ever. -/
def shop (faults : OrderedMap CatalogCall Fault) : Site where
  catalog := .shop
  troubles := .lasting faults

/-- The condition under which the clients of the shop answer. -/
def OpenShop (faults : OrderedMap CatalogCall Fault) : Site → Prop :=
  (host (clients "shop")).At (Offers .shop faults) 1 0

theorem shop_open (faults : OrderedMap CatalogCall Fault) : OpenShop faults (shop faults) :=
  ⟨⟨rfl, rfl, rfl⟩, ⟨rfl, rfl, rfl⟩⟩

def shopScheduler (updateTime : Entity → Except Fault Int) : Scheduler Site where
  services := servicesAt "shop" updateTime
  selector := .everything
  rules := .make {} true ["_tmp"]

theorem shopScheduler_shows (faults : OrderedMap CatalogCall Fault)
    (updateTime : Entity → Except Fault Int) :
    (shopScheduler updateTime).services.Shows (OpenShop faults)
      (Catalog.shop.view faults updateTime) :=
  servicesAt_show "shop" 0 0

theorem shop_listsOnce (updateTime : Entity → Except Fault Int) :
    (Catalog.shop.view [] updateTime).ListsOnce := by
  have once : (Catalog.shop.view [] fun _ => .ok 0).ListsOnce := by
    unfold View.ListsOnce
    decide +kernel
  exact once

end Site
end CatalogDelta
