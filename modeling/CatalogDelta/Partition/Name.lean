import CatalogDelta.Fault
import CatalogDelta.Text.Pieces

/-!
# Partition names

A partition name is a path `key1=value1/key2=value2`. A value may hold the sign `=`, so a segment is
cut at the first one; a key may not be empty.
-/

namespace CatalogDelta.PartitionName

/-- A segment cut into key and value. -/
def segment? (segment : List Char) : Option (List Char × List Char) :=
  match Text.cutFirst '=' segment with
  | some (key, value) => if key.isEmpty then none else some (key, value)
  | none => none

/-- Keys with their values, or the first segment that has no key. -/
def parseSegments : List (List Char) → Except (List Char) (List (List Char × List Char))
  | [] => .ok []
  | segment :: others =>
    match segment? segment with
    | none => .error segment
    | some entry => do
      let entries ← parseSegments others
      return entry :: entries

/-- The keys and values of a name, or the first segment that has no key. -/
def parse (name : String) : Except String (List String × List String) :=
  match parseSegments (Text.pieces '/' name.toList) with
  | .ok entries =>
    .ok (entries.map fun (key, _) => String.ofList key,
      entries.map fun (_, value) => String.ofList value)
  | .error segment => .error (String.ofList segment)

/-- A segment of a name has no key. -/
def keyless (segment : String) : Fault :=
  .invalidValue ("Invalid partition name segment: " ++ Text.quoted segment)

def read (name : String) : Except Fault (List String × List String) :=
  (parse name).mapError keyless

def segmentText (key value : String) : String := key ++ "=" ++ value

/-- Keys with their values; a key that comes again takes the later value. -/
def assign (keys values : List String) : OrderedMap String String :=
  OrderedMap.ofList (keys.zip values)

def render (keys values : List String) : String :=
  "/".intercalate ((assign keys values).map fun (key, value) => segmentText key value)

end CatalogDelta.PartitionName
