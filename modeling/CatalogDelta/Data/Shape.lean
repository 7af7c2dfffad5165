import CatalogDelta.Decimal.Binary
import CatalogDelta.Fault
import CatalogDelta.Text.Pieces

/-!
# Taking loosely typed data apart

Each function asks a value for its parts and fails if the value has no such parts.
-/

namespace CatalogDelta.Data

/-- The value, or an empty map in its place if it does not count as present. -/
def orEmpty (value : Data) : Data := if value.isTruthy then value else .map []

/-- The entry of a map under a key, null for a missing one. -/
def entry (value : Data) (key : String) : Except Fault Data :=
  match value with
  | .map entries => .ok ((OrderedMap.get? key entries).getD .null)
  | other => .error (.noMember other "get")

def entries : Data → Except Fault (List (String × Data))
  | .map entries => .ok entries
  | other => .error (.noMember other "items")

/-- What going through a value yields: the items of a list, the keys of a map, the characters of a
text. -/
def items : Data → Except Fault (List Data)
  | .list items => .ok items
  | .map entries => .ok (entries.map fun (key, _) => .text key)
  | .text content => .ok (content.toList.map fun c => .text c.toString)
  | other => .error (.wrongType (Text.quoted other.typeName ++ " object is not iterable"))

/-- What going through a value yields; nothing for a value that does not count as present. -/
def itemsIfAny (value : Data) : Except Fault (List Data) :=
  if value.isTruthy then value.items else .ok []

def mentions (value : Data) (part : String) : Except Fault Bool :=
  match value with
  | .text content => .ok (Text.occursIn part.toList content.toList)
  | .list items => .ok (items.any (·.isText part))
  | .map entries => .ok (entries.any (·.1 = part))
  | other =>
    .error (.wrongType ("argument of type " ++ Text.quoted other.typeName ++ " is not iterable"))

/-- What a value is as a key. Values that are equal are the same key, and so are a truth value, a
whole number and a float that stand for the same number. -/
inductive Key where
  | null
  | text (value : String)
  | whole (value : Int)
  /-- A float that is not a whole number. -/
  | uneven (value : Decimal.Reading)
  /-- A point in time, by whether it is known where its clock stands. -/
  | moment (isPlaced : Bool) (micros : Int)
  | span (value : Span)
  deriving Repr, DecidableEq

def Key.ofReading (value : Decimal.Reading) : Key :=
  match value with
  | .finite negative size =>
    if size.fraction.1 % size.fraction.2 = 0 then
      .whole (if negative then -(size.floor : Int) else size.floor)
    else .uneven value
  | _ => .uneven value

/-- The value cannot be a key. -/
def unhashable (value : Data) : Fault :=
  .wrongType ("unhashable type: " ++ Text.quoted value.typeName)

def asKey (value : Data) : Except Fault Key :=
  match value with
  | .null => .ok .null
  | .bool value => .ok (.whole (if value then 1 else 0))
  | .int value => .ok (.whole value)
  | .float value => .ok (.ofReading (.ofFloat value))
  | .text value => .ok (.text value)
  | .moment value => .ok (.moment value.offset.isSome value.epochMicros)
  | .span value => .ok (.span value)
  | .list _ | .map _ => .error (unhashable value)

/-- The length of an item that should be a pair is not two. -/
def notPair (index length : Nat) : Fault :=
  .invalidValue ("dictionary update sequence element #" ++ toString index ++ " has length " ++
    toString length ++ "; 2 is required")

def pairAt (index : Nat) : Data → Except Fault (String × Data)
  | .text content =>
    match content.toList with
    | [key, value] => .ok (key.toString, .text value.toString)
    | chars => .error (notPair index chars.length)
  | .list [key, value] =>
    match key with
    | .list _ | .map _ => .error (unhashable key)
    | key => .ok (key.shown, value)
  | .list items => .error (notPair index items.length)
  | .map [(key, _), (value, _)] => .ok (key, .text value)
  | .map entries => .error (notPair index entries.length)
  | _ =>
    .error (.wrongType ("cannot convert dictionary update sequence element #" ++ toString index ++
      " to a sequence"))

def pairsFrom : Nat → List Data → Except Fault (List (String × Data))
  | _, [] => .ok []
  | index, item :: others => do
    let pair ← pairAt index item
    return pair :: (← pairsFrom (index + 1) others)

def asEntries : Data → Except Fault (List (String × Data))
  | .map entries => .ok entries
  | value => do return OrderedMap.ofList (← pairsFrom 0 (← value.items))

end CatalogDelta.Data
