/-!
# Insertion-ordered maps

A map is the list of its entries in the order in which their keys were first put. Putting a key
again replaces its value and keeps its place.
-/

namespace CatalogDelta

/-- Entries in the order of their keys' first insertion. -/
abbrev OrderedMap (κ ν : Type) := List (κ × ν)

namespace OrderedMap

variable {κ ν : Type} [DecidableEq κ]

def get? (key : κ) : OrderedMap κ ν → Option ν
  | [] => none
  | (k, v) :: rest => if k = key then some v else get? key rest

def put (key : κ) (value : ν) : OrderedMap κ ν → OrderedMap κ ν
  | [] => [(key, value)]
  | (k, v) :: rest => if k = key then (k, value) :: rest else (k, v) :: put key value rest

def erase (key : κ) (map : OrderedMap κ ν) : OrderedMap κ ν :=
  map.filter fun (k, _) => k ≠ key

/-- The keys in order. -/
def keys (map : OrderedMap κ ν) : List κ := map.map (·.1)

/-- The values in order. -/
def values (map : OrderedMap κ ν) : List ν := map.map (·.2)

def hasKey (key : κ) (map : OrderedMap κ ν) : Bool := (get? key map).isSome

def ofList (entries : List (κ × ν)) : OrderedMap κ ν :=
  entries.foldl (fun map (k, v) => put k v map) []

/-- Store all the entries of a second map over the first. -/
def putAll (map additions : OrderedMap κ ν) : OrderedMap κ ν :=
  additions.foldl (fun map (k, v) => put k v map) map

/-- Read entries over those read so far; of two for one key the later one stands. -/
def readOnto {ε ι : Type} (read : ι → Except ε (κ × ν)) (found : OrderedMap κ ν) :
    List ι → Except ε (OrderedMap κ ν)
  | [] => .ok found
  | item :: others => do
    let (key, value) ← read item
    readOnto read (put key value found) others

/-- The entries in an order of their keys. -/
def sortedBy (precedes : κ → κ → Bool) (map : OrderedMap κ ν) : OrderedMap κ ν :=
  map.mergeSort fun first second => !precedes second.1 first.1

@[simp] theorem get?_put (key other : κ) (value : ν) (map : OrderedMap κ ν) :
    get? other (put key value map) = if key = other then some value else get? other map := by
  induction map with
  | nil => simp [put, get?]
  | cons entry rest ih =>
    obtain ⟨k, v⟩ := entry
    by_cases same : k = key
    · subst same
      by_cases hit : k = other <;> simp [put, get?, hit]
    · by_cases hit : k = other
      · subst hit
        simp [put, get?, same, Ne.symm same]
      · simp [put, get?, same, hit, ih]

theorem hasKey_iff_mem_keys (key : κ) (map : OrderedMap κ ν) :
    hasKey key map = true ↔ key ∈ keys map := by
  induction map with
  | nil => simp [hasKey, get?, keys]
  | cons entry rest ih =>
    obtain ⟨k, v⟩ := entry
    by_cases hit : k = key
    · simp [hasKey, get?, keys, hit]
    · simp only [hasKey, get?, hit, ↓reduceIte, keys, List.map_cons, List.mem_cons] at ih ⊢
      simp [ih, Ne.symm hit]

end OrderedMap
end CatalogDelta
