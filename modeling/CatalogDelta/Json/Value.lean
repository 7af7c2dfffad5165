import CatalogDelta.Fault
import CatalogDelta.Text.Points

/-!
# JSON values

The texts of a JSON value are lists of code points, since an escape may write a unit of a surrogate
pair that stands alone. Data has a JSON value: moments and spans are written as texts. A value is
data unless one of its texts holds such a unit.
-/

namespace CatalogDelta.Json

/-- A JSON value; the members of an object are in order. -/
inductive Value where
  | null
  | bool (content : Bool)
  | int (content : Int)
  | float (content : Float)
  | text (content : Points)
  | list (items : List Value)
  | map (entries : List (Points × Value))
  deriving Inhabited

namespace Value

mutual

def ofData : Data → Value
  | .null => null
  | .bool content => bool content
  | .int content => int content
  | .float content => float content
  | .text content => text (.ofText content)
  | .list items => list (ofItems items)
  | .map entries => map (ofEntries entries)
  | .moment content => text (.ofText content.text)
  | .span content => text (.ofText content.text)

def ofItems : List Data → List Value
  | [] => []
  | item :: others => ofData item :: ofItems others

def ofEntries : List (String × Data) → List (Points × Value)
  | [] => []
  | (name, content) :: others => (.ofText name, ofData content) :: ofEntries others

end

mutual

/-- The data that a value is, if all its texts are ordinary ones. -/
def toData? : Value → Option Data
  | null => some .null
  | bool content => some (.bool content)
  | int content => some (.int content)
  | float content => some (.float content)
  | text content => (Points.text? content).map .text
  | list items => (toItems? items).map .list
  | map entries => (toEntries? entries).map .map

def toItems? : List Value → Option (List Data)
  | [] => some []
  | item :: others => do return (← toData? item) :: (← toItems? others)

def toEntries? : List (Points × Value) → Option (List (String × Data))
  | [] => some []
  | (name, content) :: others => do
    return (← Points.text? name, ← toData? content) :: (← toEntries? others)

end

/-! ## Values in messages -/

def typeName : Value → String
  | null => "NoneType"
  | bool _ => "bool"
  | int _ => "int"
  | float _ => "float"
  | text _ => "str"
  | list _ => "list"
  | map _ => "dict"

mutual

/-- A value written so that its type shows. -/
def literal : Value → String
  | null => "None"
  | bool content => if content then "True" else "False"
  | int content => String.ofList (Decimal.showInteger content)
  | float content => Decimal.Style.plain.render content
  | text content => Points.quoted content
  | list items => "[" ++ literalItems items ++ "]"
  | map entries => "\x7b" ++ literalEntries entries ++ "\x7d"

def literalItems : List Value → String
  | [] => ""
  | [item] => literal item
  | item :: items => literal item ++ ", " ++ literalItems items

def literalEntries : List (Points × Value) → String
  | [] => ""
  | [(name, content)] => Points.quoted name ++ ": " ++ literal content
  | (name, content) :: entries =>
    Points.quoted name ++ ": " ++ literal content ++ ", " ++ literalEntries entries

end

/-- A text plainly, and everything else so that its type shows. -/
def shown : Value → String
  | text content => Points.shown content
  | value => literal value

/-! ## Taking values apart -/

/-- The value counts as present: it is not null, false, zero or empty. -/
def isTruthy : Value → Bool
  | null => false
  | bool content => content
  | int content => content ≠ 0
  | float content => !(content == 0)
  | text content => !content.isEmpty
  | list items => !items.isEmpty
  | map entries => !entries.isEmpty

/-- The member of a name; nothing for a missing one or a value that is no object. -/
def member? (name : String) : Value → Option Value
  | map entries => OrderedMap.get? (.ofText name) entries
  | _ => none

/-- The member of a name, null for a missing one. -/
def member (value : Value) (name : String) : Except Fault Value :=
  match value with
  | map entries => .ok ((OrderedMap.get? (.ofText name) entries).getD null)
  | other => .error (.memberless other.typeName "get")

def members : Value → Except Fault (List (Points × Value))
  | map entries => .ok entries
  | other => .error (.memberless other.typeName "items")

end Value
end CatalogDelta.Json
