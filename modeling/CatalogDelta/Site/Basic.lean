import CatalogDelta.Catalog.Basic
import CatalogDelta.Catalog.Trouble
import CatalogDelta.Files.Access
import CatalogDelta.Pool.Basic

/-!
# Sites

A site is everything outside the library that a run meets, as one value: a catalog with the troubles
of its calls, a pool of clients with their factory, drives, files, and the time. A run on a site can
be looked at without touching anything else.

A drive is a storage system that answers from a table, path by path. An answer may be a fault, and a
drive may not be reachable at all. A factory makes clients for a pool. What comes of each making
follows a script whose last entry stands for all later ones; an empty script always makes a client.
-/

namespace CatalogDelta

/-! ## Drives -/

/-- The answers of a storage system by path. -/
structure DriveTable where
  /-- What is known of a path. -/
  info : OrderedMap String (Except Fault Data) := []
  /-- Whether something is stored at a path, where that does not follow from what is known of it. -/
  presence : OrderedMap String (Except Fault Bool) := []
  /-- What is known of the direct children of a path. -/
  children : OrderedMap String (Except Fault Data) := []

/-- A storage system. -/
inductive Drive where
  | unreachable (fault : Fault)
  | reachable (table : DriveTable)

namespace Drive

abbrev Rack := OrderedMap String Drive

/-- No drive has a protocol. -/
def unknown (protocol : String) : Fault := .invalidValue ("Protocol not known: " ++ protocol)

/-- The table of the drive of a protocol, if it can be reached. -/
def reach (rack : Rack) (protocol : String) : Except Fault DriveTable :=
  match OrderedMap.get? protocol rack with
  | none => .error (unknown protocol)
  | some (.unreachable fault) => .error fault
  | some (.reachable table) => .ok table

end Drive

namespace DriveTable

def isThere (table : DriveTable) (path : String) : Except Fault Bool :=
  (OrderedMap.get? path table.presence).getD (.ok (OrderedMap.hasKey path table.info))

/-- What is known of a path; nothing unless the table tells. -/
def infoOf (table : DriveTable) (path : String) : Except Fault Data :=
  (OrderedMap.get? path table.info).getD (.ok (.map []))

/-- What is known of the children of a path; there are none unless the table tells. -/
def childrenOf (table : DriveTable) (path : String) : Except Fault Data :=
  (OrderedMap.get? path table.children).getD (.ok (.list []))

end DriveTable

/-! ## Client factories -/

/-- What comes of making a client. -/
inductive Making where
  | client
  | fault (fault : Fault)
  /-- The pool is closed, then a client is made. -/
  | closePool

/-- The state of a factory. -/
structure Factory where
  script : List Making := []
  /-- The client that every making gives, if there is only one. -/
  only : Option String := none
  /-- How often a client has been asked for. -/
  asked : Nat := 0
  /-- The clients in the order of their making, and how often each has been closed. -/
  closings : OrderedMap String Nat := []
  /-- What the closing of a client fails with. -/
  closeFault : Option Fault := none

namespace Factory

def ofOne (client : String) (closeFault : Option Fault) : Factory :=
  { only := some client, closings := [(client, 0)], closeFault }

def next (factory : Factory) : Making × Factory :=
  ((factory.script[factory.asked]? <|> factory.script.getLast?).getD .client,
    { factory with asked := factory.asked + 1 })

/-- A new client, or the only one. -/
def make (factory : Factory) : String × Factory :=
  match factory.only with
  | some client => (client, factory)
  | none =>
    let client := "c" ++ toString factory.closings.length
    (client, { factory with closings := factory.closings ++ [(client, 0)] })

def countClosing (factory : Factory) (client : String) : Factory :=
  { factory with
    closings :=
      OrderedMap.put client ((OrderedMap.get? client factory.closings).getD 0 + 1)
        factory.closings }

end Factory

/-! ## Sites -/

/-- What has been written to the output and to the error stream. -/
structure Console where
  output : String := ""
  errors : String := ""
  /-- How many entries of the journal have been written to the error stream. -/
  entriesShown : Nat := 0

/-- What a run meets. -/
structure Site where
  catalog : Catalog := {}
  troubles : TroublePlan := []
  /-- The calls made to the catalog, oldest first. -/
  calls : List CatalogCall := []
  pool : Pool String := .ofSize 1
  factory : Factory := {}
  drives : Drive.Rack := []
  /-- The sources of update times that are connected, each with a protocol. -/
  connected : List (Nat × String) := []
  /-- The attempts to connect, oldest first. -/
  connections : List (String × List (String × Data)) := []
  files : Files := {}
  console : Console := {}
  /-- The lengths in seconds of the waits between attempts, oldest first. -/
  waits : List Float := []
  /-- The time in milliseconds. -/
  now : Int := 0

namespace Site

def fileAccess : FileAccess Site where
  files := Site.files
  setFiles files site := { site with files }

def troubleBook : TroubleBook Site where
  plan := Site.troubles
  setPlan troubles site := { site with troubles }
  addCall call site := { site with calls := site.calls ++ [call] }

def client (kind : String) : Client Site := troubleBook.client kind (Catalog.client Site.catalog)

def pause (seconds : Float) : Act Site Unit :=
  Act.change fun site => { site with waits := site.waits ++ [seconds] }

def clock : Act Site Int := Act.view Site.now

end Site
end CatalogDelta
