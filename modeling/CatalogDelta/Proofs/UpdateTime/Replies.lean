import CatalogDelta.Proofs.Act.Gives
import CatalogDelta.Site.Services

/-!
# Storage with fixed replies

Storage systems may answer every question always in the same way. What is then left to change is
the storage's own books: which attempts to connect it has made, and which sources it remembers as
connected. The drives of a site are such systems.
-/

namespace CatalogDelta

open Act

/-- What storage systems reply, to an attempt to connect and to questions. -/
structure Storage.Replies where
  connect : (protocol : String) → (options : List (String × Data)) → Except Fault Unit
  isThere : (protocol path : String) → Except Fault Bool
  info : (protocol path : String) → Except Fault Data
  children : (protocol path : String) → Except Fault Data

/-- What a storage has in its books: the attempts to connect, oldest first, and which source is
connected to which system. -/
structure Storage.Books where
  attempts : List (String × List (String × Data))
  linked : Nat → String → Bool

namespace Storage

variable {σ : Type}

namespace Books

def addAttempt (books : Books) (protocol : String) (options : List (String × Data)) : Books :=
  { books with attempts := books.attempts ++ [(protocol, options)] }

def link (books : Books) (source : Nat) (protocol : String) : Books :=
  { books with
    linked := fun other name => books.linked other name || (other = source && name = protocol) }

/-- The books that a storage has. -/
def of (storage : Storage σ) (attempts : σ → List (String × List (String × Data))) (outside : σ) :
    Books where
  attempts := attempts outside
  linked source protocol := storage.isConnected source protocol outside

/-- The outside is as expected, and has these books. -/
def Hold (storage : Storage σ) (base : σ → Prop)
    (attempts : σ → List (String × List (String × Data))) (books : Books) (outside : σ) : Prop :=
  base outside ∧ attempts outside = books.attempts ∧
    ∀ source protocol, storage.isConnected source protocol outside = books.linked source protocol

end Books

/-- The systems give fixed replies, and the storage keeps its books: an attempt to connect is added
to them, and so is what is to be remembered. A question changes nothing in them. -/
structure Replying (storage : Storage σ) (replies : Replies) (base : σ → Prop)
    (attempts : σ → List (String × List (String × Data))) : Prop where
  connect : ∀ protocol options books (stage : Stage σ),
    Books.Hold storage base attempts books stage.outside →
    (runOn (storage.connect protocol options) stage).1 = replies.connect protocol options ∧
      Books.Hold storage base attempts (books.addAttempt protocol options)
        (runOn (storage.connect protocol options) stage).2.outside
  remember : ∀ source protocol books outside, Books.Hold storage base attempts books outside →
    Books.Hold storage base attempts (books.link source protocol)
      (storage.remember source protocol outside)
  isThere : ∀ protocol path books, Gives (Books.Hold storage base attempts books)
    (storage.isThere protocol path) (replies.isThere protocol path)
  info : ∀ protocol path books, Gives (Books.Hold storage base attempts books)
    (storage.info protocol path) (replies.info protocol path)
  children : ∀ protocol path books, Gives (Books.Hold storage base attempts books)
    (storage.children protocol path) (replies.children protocol path)

end Storage

namespace Site

/-- What the systems of a rack of drives reply. -/
def replies (rack : Drive.Rack) : Storage.Replies where
  connect protocol _ := Drive.reach rack protocol >>= fun _ => .ok ()
  isThere protocol path := Drive.reach rack protocol >>= (·.isThere path)
  info protocol path := Drive.reach rack protocol >>= (·.infoOf path)
  children protocol path := Drive.reach rack protocol >>= (·.childrenOf path)

theorem runOn_askDrive {α : Type} (protocol : String) (question : DriveTable → Except Fault α)
    (stage : Stage Site) :
    runOn (askDrive protocol question) stage =
      (Drive.reach stage.outside.drives protocol >>= question, stage) := by
  unfold askDrive
  rw [runOn_bind, runOn_view]
  dsimp only
  rw [runOn_bind, runOn_settle]
  cases Drive.reach stage.outside.drives protocol with
  | error fault => rfl
  | ok table => exact runOn_settle (question table) stage

theorem askDrive_gives {α : Type} {ready : Site → Prop} {rack : Drive.Rack}
    (mounted : ∀ site, ready site → site.drives = rack) (protocol : String)
    (question : DriveTable → Except Fault α) :
    Gives ready (askDrive protocol question) (Drive.reach rack protocol >>= question) := by
  intro stage met
  rw [runOn_askDrive, mounted _ met]
  exact ⟨rfl, met⟩

/-- **The drives of a site give fixed replies.** -/
theorem storage_replying (rack : Drive.Rack) :
    storage.Replying (replies rack) (fun site => site.drives = rack) Site.connections where
  connect protocol options books stage holds := by
    obtain ⟨drives, attempts, linked⟩ := holds
    have ran : runOn (storage.connect protocol options) stage =
        (Drive.reach stage.outside.drives protocol >>= fun _ => .ok (),
          { stage with outside := { stage.outside with
              connections := stage.outside.connections ++ [(protocol, options)] } }) := by
      change runOn (connect protocol options) stage = _
      unfold connect
      rw [runOn_bind, runOn_change]
      dsimp only
      rw [runOn_bind, runOn_view]
      dsimp only
      rw [runOn_bind, runOn_settle]
      cases Drive.reach stage.outside.drives protocol <;> rfl
    rw [ran, drives]
    exact ⟨rfl, drives, by rw [attempts]; rfl, linked⟩
  remember source protocol books outside holds := by
    obtain ⟨drives, attempts, linked⟩ := holds
    refine ⟨drives, attempts, fun other name => ?_⟩
    have added : storage.isConnected other name (storage.remember source protocol outside) =
        (storage.isConnected other name outside || (other = source && name = protocol)) := by
      change (outside.connected ++ [(source, protocol)]).contains (other, name) =
        (outside.connected.contains (other, name) || _)
      rw [Bool.eq_iff_iff]
      simp only [List.contains_iff_mem, List.mem_append, List.mem_singleton, Prod.mk.injEq,
        Bool.or_eq_true, Bool.and_eq_true, decide_eq_true_eq]
    rw [added, linked]
    rfl
  isThere _ _ _ := askDrive_gives (fun _ holds => holds.1) _ _
  info _ _ _ := askDrive_gives (fun _ holds => holds.1) _ _
  children _ _ _ := askDrive_gives (fun _ holds => holds.1) _ _

/-- A table that is stored at a path. -/
def storedAt (path : String) : Entity :=
  .table { dataset := ⟨"sales", "orders"⟩, location := .text path }

end Site
end CatalogDelta
