import CatalogDelta.Act
import CatalogDelta.Data.Integer
import CatalogDelta.Data.Shape
import CatalogDelta.Handle

/-!
# Update times from storage

The time of an entity in storage is the newest modification time below its location. A directory
counts by its direct children, or by itself if no child has a time. A source connects once to the
system of each protocol; a failed attempt to connect is made again at the next question.
-/

namespace CatalogDelta

/-- How acts reach storage systems. A system is named by its protocol. -/
structure Storage (σ : Type) where
  /-- Connect to a system with options. -/
  connect : (protocol : String) → (options : List (String × Data)) → Act σ Unit
  /-- The source of a number is connected to a system. -/
  isConnected : (source : Nat) → (protocol : String) → σ → Bool
  /-- Remember that a source is connected to a system. -/
  remember : (source : Nat) → (protocol : String) → σ → σ
  /-- Something is stored at a path. -/
  isThere : (protocol path : String) → Act σ Bool
  /-- What is known of a path. -/
  info : (protocol path : String) → Act σ Data
  /-- What is known of the direct children of a path. -/
  children : (protocol path : String) → Act σ Data

namespace Storage

def mark : List Char := "://".toList

/-- The text before the first occurrence of a mark, if there is one. -/
def beforeMark (mark : List Char) : List Char → Option (List Char)
  | [] => if mark.isEmpty then some [] else none
  | c :: rest =>
    if mark.isPrefixOf (c :: rest) then some []
    else (beforeMark mark rest).map (c :: ·)

/-- The protocol of a location; one without a mark is a plain file path. -/
def protocolOf (location : String) : String :=
  match beforeMark mark location.toList with
  | some protocol => String.ofList protocol
  | none => "file"

/-- The keys under which a modification time may be found, in order of preference. -/
def timeKeys : List String := ["mtime", "LastModified", "last_modified", "modification_time"]

/-- A float in milliseconds, cut toward zero. -/
def cut (millis : Float) : Except Fault Int := Data.integerOfFloat millis

/-- A modification time in milliseconds: seconds or a moment; nothing for any other value. -/
def millisOf : Data → Except Fault (Option Int)
  | .moment moment => do return some (← cut (moment.epochSeconds * 1000))
  | .int seconds =>
    if (Float.ofInt seconds).isInf then .error (.outOfRange "int too large to convert to float")
    else do return some (← cut (Float.ofInt seconds * 1000))
  | .bool value => .ok (some (if value then 1000 else 0))
  | .float seconds => do return some (← cut (seconds * 1000))
  | _ => .ok none

/-- The first usable time among some keys. -/
def firstTime (entries : List (String × Data)) : List String → Except Fault (Option Int)
  | [] => .ok none
  | key :: others =>
    match OrderedMap.get? key entries with
    | none => firstTime entries others
    | some value => do
      match ← millisOf value with
      | some millis => return some millis
      | none => firstTime entries others

def timeOf (entries : List (String × Data)) : Except Fault (Option Int) :=
  firstTime entries timeKeys

/-- The later of two times, either of which may be missing. -/
def later : Option Int → Option Int → Option Int
  | none, time | time, none => time
  | some first, some second => some (if first < second then second else first)

/-- The newest time among children, starting from one that may be missing; what is no information
is passed over. -/
def newest (best : Option Int) : List Data → Except Fault (Option Int)
  | [] => .ok best
  | .map entries :: others => do newest (later best (← timeOf entries)) others
  | _ :: others => newest best others

/-- An entity has no location. -/
def noLocation (entity : Entity) : Fault :=
  .updateTimeNotFound "Catalog entry has no storage location" (some entity.describe)

/-- Nothing is stored at a location. -/
def notThere (entity : Entity) (location : String) : Fault :=
  .updateTimeNotFound "Storage location does not exist" (some entity.describe)
    [("location", .text location)]

/-- Storage cannot be read. -/
def unreadable (entity : Entity) (location : Data) (cause : Fault) : Fault :=
  .updateTimeNotFound "Could not read storage modification time" (some entity.describe)
    [("location", location)] (some cause)

/-- Storage tells no time. -/
def noTime (entity : Entity) (location : String) : Fault :=
  .updateTimeNotFound "Storage location reports no modification time" (some entity.describe)
    [("location", .text location)]

/-- The kinds of fault by which storage says that it cannot be read. -/
def readingKinds : List FaultKind := [.system, .value, .missingDriver]

variable {σ : Type}

/-- The options name the protocol once more. -/
def protocolTwice : Fault := .wrongType "got multiple values for argument 'protocol'"

/-- Connect a source to a system, unless it is connected. -/
def ensure (storage : Storage σ) (source : Nat) (options : List (String × Data))
    (protocol : String) : Act σ Unit := do
  if !(← Act.view (storage.isConnected source protocol)) then
    if OrderedMap.hasKey "protocol" options then throw protocolTwice
    storage.connect protocol options
    Act.change (storage.remember source protocol)

def ask (storage : Storage σ) (source : Nat) (options : List (String × Data)) (entity : Entity)
    (location : String) : Act σ (Option Int) := do
  let protocol := protocolOf location
  storage.ensure source options protocol
  if !(← storage.isThere protocol location) then throw (notThere entity location)
  match ← storage.info protocol location with
  | .map entries =>
    if ((OrderedMap.get? "type" entries).getD .null).isText "directory" then
      let children ← Act.settle (← storage.children protocol location).items
      match ← Act.settle (newest none children) with
      | some millis => return some millis
      | none => Act.settle (timeOf entries)
    else Act.settle (timeOf entries)
  | other => throw (.noMember other "get")

/-- A location that is no text names no path. -/
def askOdd (storage : Storage σ) (source : Nat) (options : List (String × Data))
    (location : Data) : Act σ (Option Int) := do
  if ← Act.settle (location.mentions (String.ofList mark)) then
    throw (.noMember location "split")
  storage.ensure source options "file"
  throw (Data.unhashable location)

/-- The time of an entity in storage, in milliseconds. -/
def lookUp (storage : Storage σ) (source : Nat) (options : List (String × Data))
    (entity : Entity) : Act σ Int := do
  let location := entity.location
  if !location.isTruthy then throw (noLocation entity)
  let asked :=
    match location with
    | .text path => storage.ask source options entity path
    | other => storage.askOdd source options other
  match ← Act.attempt asked with
  | .ok (some millis) =>
    Act.note Level.debug Author.storage
      ("Modification time of " ++ location.shown ++ " is " ++
        String.ofList (Decimal.showInteger millis))
    return millis
  | .ok none => throw (noTime entity location.shown)
  | .error fault =>
    if readingKinds.any fault.kind.isA then throw (unreadable entity location fault)
    else throw fault

end Storage
end CatalogDelta
