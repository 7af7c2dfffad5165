import CatalogDelta.Clock.Moment
import CatalogDelta.OrderedMap

/-!
# Loosely typed data

Configuration documents, catalog snapshots and table metadata hold values whose type nobody
promises. `Data` is such a value.
-/

namespace CatalogDelta

/-- A value of any type that documents and metadata may hold. -/
inductive Data where
  | null
  | bool (value : Bool)
  | int (value : Int)
  | float (value : Float)
  | text (value : String)
  | list (items : List Data)
  | map (entries : List (String × Data))
  | moment (value : Moment)
  | span (value : Span)
  deriving Inhabited

namespace Data

/-- The value counts as present: it is not null, false, zero or empty. -/
def isTruthy : Data → Bool
  | null => false
  | bool value => value
  | int value => value ≠ 0
  | float value => !(value == 0)
  | text value => !value.isEmpty
  | list items => !items.isEmpty
  | map entries => !entries.isEmpty
  | moment _ => true
  | span value => value.micros ≠ 0

def typeName : Data → String
  | null => "NoneType"
  | bool _ => "bool"
  | int _ => "int"
  | float _ => "float"
  | text _ => "str"
  | list _ => "list"
  | map _ => "dict"
  | moment _ => "datetime"
  | span _ => "timedelta"

/-- The value is exactly this text. -/
def isText (value : String) : Data → Bool
  | text content => content == value
  | _ => false

/-- The text, if the value is one. -/
def asText? : Data → Option String
  | text content => some content
  | _ => none

/-- The entry of a map under a key; nothing for a missing key or a value that is no map. -/
def field? (key : String) : Data → Option Data
  | map entries => OrderedMap.get? key entries
  | _ => none

/-- An optional text as a value. -/
def ofText? : Option String → Data
  | none => null
  | some value => text value

end Data
end CatalogDelta
