import CatalogDelta.Proofs.Act.Gives
import CatalogDelta.Scan.Run
import Mathlib.Data.List.Flatten

/-!
# What a scan gets to see

A view collects the answers of a catalog and the update times of its entities. Services show a view
if every client they lease answers by it, and the update times they give are those of the view.
-/

namespace CatalogDelta

/-- The answers of a catalog, and the update times of its entities. -/
structure View where
  databases : Except Fault (List String)
  tables : String → Except Fault (List Table)
  partitions : Table → Except Fault (List Partition)
  updateTime : Entity → Except Fault Int

namespace View

variable (view : View)

/-- The databases of a view; none if they cannot be listed. -/
def shownDatabases : List String := view.databases.toOption.getD []

def shownTables (database : String) : List Table := (view.tables database).toOption.getD []

/-- The tables of all databases, in the order of the catalog. -/
def listed : List Table := view.shownDatabases.flatMap view.shownTables

def ListsOnce : Prop := (view.listed.map (·.dataset)).Nodup

end View

/-- The calls of a client answer by a view wherever the outside meets a condition. -/
structure Client.Shows {σ : Type} (client : Client σ) (ready : σ → Prop) (view : View) :
    Prop where
  databases : Act.Gives ready client.listDatabases view.databases
  tables : ∀ database, Act.Gives ready (client.listTables database) (view.tables database)
  partitions : ∀ table, Act.Gives ready (client.listPartitions table) (view.partitions table)

/-- Services answer by a view wherever the outside meets a condition. What is done under a lease may
count on nothing but a client that answers by the view. -/
structure ScanServices.Shows {σ : Type} (services : ScanServices σ) (ready : σ → Prop)
    (view : View) : Prop where
  lease : ∀ {α : Type} (work : Client σ → Act σ α) (answer : Except Fault α),
    (∀ (held : σ → Prop) (client : Client σ), client.Shows held view →
      Act.Gives held (work client) answer) →
    Act.Gives ready (services.lease work) answer
  updateTime : ∀ entity, Act.Gives ready (services.updateTime entity) (view.updateTime entity)
  clock : Act.Returns ready services.clock

namespace View

variable (view : View)

def chosenIn (selector : Selector) (database : String) : List Table :=
  (view.shownTables database).filter fun table => selector.coversTable table.dataset

/-- The tables that a selector chooses, in the order of the catalog. -/
def chosen (selector : Selector) : List Table :=
  (view.shownDatabases.filter selector.databases.covers).flatMap (view.chosenIn selector)

theorem chosen_sublist_listed (selector : Selector) :
    (view.chosen selector).Sublist view.listed := by
  have narrowed : (view.chosen selector).Sublist
      ((view.shownDatabases.filter selector.databases.covers).flatMap view.shownTables) :=
    List.Sublist.flatMap_right _ fun _ _ => List.filter_sublist
  exact narrowed.trans (List.filter_sublist.flatMap _)

theorem ListsOnce.chosen {view : View} (once : view.ListsOnce) (selector : Selector) :
    ((view.chosen selector).map (·.dataset)).Nodup :=
  once.sublist ((view.chosen_sublist_listed selector).map _)

/-- The failure that stands for the whole catalog, if its databases cannot be listed. -/
def catalogFailure (cause : Fault) : ScanFailure :=
  Scan.wholeFailure (.listingFailure "Could not list databases" none none [] (some cause))

def databaseReport? (database : String) : Option Report :=
  match view.tables database with
  | .ok _ => none
  | .error cause => some (Selector.databaseFailure database cause)

def listingFailures (selector : Selector) : List ScanFailure :=
  match view.databases with
  | .ok databases =>
    ((databases.filter selector.databases.covers).filterMap view.databaseReport?).map
      Scan.listingFailure
  | .error cause => [catalogFailure cause]

/-- The fault with which a listing ends a scan: only a lost connection does. -/
def lostConnection {α : Type} : Except Fault α → Option Fault
  | .ok _ => none
  | .error cause => if cause.kind.isA .connectionFailure then some cause else none

/-- The fault with which the choice of tables ends a scan, if it does. -/
def choiceFault? (selector : Selector) : Option Fault :=
  match view.databases with
  | .ok databases =>
    (databases.filter selector.databases.covers).findSome? fun database =>
      lostConnection (view.tables database)
  | .error cause => lostConnection (.error cause : Except Fault (List String))

end View
end CatalogDelta
