import CatalogDelta.Pool.Lease
import CatalogDelta.Scan.Table
import CatalogDelta.Site.Basic
import CatalogDelta.UpdateTime.Source

/-!
# Services of a site

What a scan needs of the outside, as a site gives it: leases from its pool, update times from its
catalog and its drives, and its time.
-/

namespace CatalogDelta.Site

def connect (protocol : String) (options : List (String × Data)) : Act Site Unit := do
  Act.change fun site => { site with connections := site.connections ++ [(protocol, options)] }
  let _ ← Act.settle (Drive.reach (← Act.view Site.drives) protocol)

def askDrive {α : Type} (protocol : String) (question : DriveTable → Except Fault α) :
    Act Site α := do
  Act.settle (question (← Act.settle (Drive.reach (← Act.view Site.drives) protocol)))

def storage : Storage Site where
  connect := connect
  isConnected source protocol site := site.connected.contains (source, protocol)
  remember source protocol site := { site with connected := site.connected ++ [(source, protocol)] }
  isThere protocol path := askDrive protocol (·.isThere path)
  info protocol path := askDrive protocol (·.infoOf path)
  children protocol path := askDrive protocol (·.childrenOf path)

def closeClient (client : String) : Act Site Unit := do
  Act.change fun site => { site with factory := site.factory.countClosing client }
  match (← Act.view Site.factory).closeFault with
  | some fault => throw fault
  | none => return

/-- How clients look to the pool, and how long a lease waits for one. -/
structure PoolSetup where
  client : Client Site
  patience : Data

def hostWith (setup : PoolSetup) (make : Act Site String) : Pool.Host Site String where
  pool := Site.pool
  setPool pool site := { site with pool }
  make
  client key := { setup.client with close := closeClient key }
  patience := setup.patience

def makeClient : Act Site String := do
  let (client, factory) := (← Act.view Site.factory).make
  Act.change fun site => { site with factory }
  return client

def askFactory (setup : PoolSetup) : Act Site String := do
  let (making, factory) := (← Act.view Site.factory).next
  Act.change fun site => { site with factory }
  match making with
  | .fault fault => throw fault
  | .client => makeClient
  | .closePool =>
    (hostWith setup makeClient).close
    makeClient

def host (setup : PoolSetup) : Pool.Host Site String := hostWith setup (askFactory setup)

def services (setup : PoolSetup) (source : UpdateTimeSource) : ScanServices Site where
  lease work := (host setup).lease work
  updateTime entity := source.lookUp storage entity
  clock := clock

end CatalogDelta.Site
