import CatalogDelta.Text.LetterCase
import CatalogDelta.UpdateTime.Storage

/-!
# Sources of update times

An update time comes from the creation time that the catalog records, from storage, or from the
first of several sources that has one. Times are in milliseconds.
-/

namespace CatalogDelta

/-- Where update times come from. A storage source has a number by which its connections are told
from those of other sources. -/
inductive UpdateTimeSource where
  | creation (options : List (String × Data))
  | storage (number : Nat) (options : List (String × Data))
  | fallback (sources : List UpdateTimeSource)
  deriving Inhabited

namespace UpdateTimeSource

mutual

def kind : UpdateTimeSource → String
  | creation _ => "metastore"
  | storage .. => "filesystem"
  | fallback sources => "_then_".intercalate (kinds sources)

def kinds : List UpdateTimeSource → List String
  | [] => []
  | source :: others => kind source :: kinds others

end

/-- The options of a source; those of a fallback belong to its members. -/
def options : UpdateTimeSource → List (String × Data)
  | creation options | storage _ options => options
  | fallback _ => []

/-- The names of the sources that can be configured, in order. -/
def names : List String := ["filesystem", "metastore", "metastore_then_filesystem"]

def normalName (name : String) : String := Text.trimmed (Text.lowered name)

def ofNormalName? (normal : String) (options : List (String × Data)) : Option UpdateTimeSource :=
  if normal = "metastore" then some (creation options)
  else if normal = "filesystem" then some (storage 0 options)
  else if normal = "metastore_then_filesystem" then
    some (fallback [creation [], storage 0 options])
  else none

/-- No source has a name. -/
def unknownName (name : String) : Fault :=
  .configuration ("Unknown update time provider: " ++ name) (some "update_time_provider_kind")
    (.text name) (some ("Use one of: " ++ ", ".intercalate names))

/-- An option that a source has no room for. -/
def misplacedOption (name : String) : Fault :=
  .wrongType ("got multiple values for argument " ++ Text.quoted name)

/-- The source of a configured name. Its options must not name the source again. -/
def ofName (name : String) (options : List (String × Data)) : Except Fault UpdateTimeSource :=
  if OrderedMap.hasKey "kind" options then .error (misplacedOption "kind")
  else
    match ofNormalName? (normalName name) options with
    | none => .error (unknownName name)
    | some source =>
      if OrderedMap.hasKey "self" options then .error (misplacedOption "self") else .ok source

/-- The source that tries others in order; there has to be one. -/
def ofSources (sources : List UpdateTimeSource) : Except Fault UpdateTimeSource :=
  if sources.isEmpty then
    .error (.invalidValue "FallbackUpdateTimeProvider needs at least one provider")
  else .ok (fallback sources)

mutual

/-- Number the storage sources of a tree from left to right; the answer ends with the next free
number. -/
def numbered (next : Nat) : UpdateTimeSource → UpdateTimeSource × Nat
  | creation options => (creation options, next)
  | storage _ options => (storage next options, next + 1)
  | fallback sources =>
    let (sources, next) := numberedAll next sources
    (fallback sources, next)

def numberedAll (next : Nat) : List UpdateTimeSource → List UpdateTimeSource × Nat
  | [] => ([], next)
  | source :: others =>
    let (source, next) := numbered next source
    let (others, next) := numberedAll next others
    (source :: others, next)

end

/-- The catalog records no creation time. -/
def noCreationTime (entity : Entity) : Fault :=
  .updateTimeNotFound "Catalog entry has no creation time" (some entity.describe)
    [("create_time", entity.createTime)]

/-- A number is positive; only numbers compare with zero. -/
def isPositive : Data → Except Fault Bool
  | .int n => .ok (0 < n)
  | .bool b => .ok b
  | .float x => .ok !(x ≤ 0)
  | other =>
    .error (.wrongType ("'<=' not supported between instances of " ++ Text.quoted other.typeName ++
      " and 'int'"))

/-- The creation time of an entity in milliseconds. -/
def creationTime (entity : Entity) : Except Fault Int := do
  let recorded := entity.createTime
  if !recorded.isTruthy then throw (noCreationTime entity)
  if !(← isPositive recorded) then throw (noCreationTime entity)
  return (← recorded.toInteger) * 1000

def unsupported (value : Data) : Fault :=
  .wrongType ("Unsupported catalog entity: " ++ value.typeName)

/-- No source has a time. -/
def noAnswer (entity : Entity) (reasons : List String) : Fault :=
  .updateTimeNotFound "No provider returned an update time" (some entity.describe)
    [("attempts", .text ("; ".intercalate reasons))]

variable {σ : Type}

mutual

def lookUp (access : Storage σ) (entity : Entity) : UpdateTimeSource → Act σ Int
  | creation _ => Act.settle (creationTime entity)
  | storage number options => access.lookUp number options entity
  | fallback sources => firstAnswer access entity sources []

/-- The first answer of several sources; `reasons` tells why earlier ones had none. -/
def firstAnswer (access : Storage σ) (entity : Entity) :
    List UpdateTimeSource → List String → Act σ Int
  | [], reasons => throw (noAnswer entity reasons)
  | source :: others, reasons => do
    match ← Act.attempt (lookUp access entity source) with
    | .ok time => return time
    | .error fault =>
      if fault.kind.isA .updateTimeNotFound then
        Act.note Level.debug Author.updateTime
          (source.kind ++ " provider has no update time for " ++ entity.describe ++ ": " ++
            fault.brief)
        firstAnswer access entity others (reasons ++ [source.kind ++ ": " ++ fault.brief])
      else throw fault

end

end UpdateTimeSource
end CatalogDelta
