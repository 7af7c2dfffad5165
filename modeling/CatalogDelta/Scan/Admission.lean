import CatalogDelta.Data.Shape
import CatalogDelta.Lookback.Policy

/-!
# Admission

An entity is admitted if its update lies in the lookback window and after the watermark of its
dataset. What is stored at an ignored location is passed over.
-/

namespace CatalogDelta

/-- The rules by which a scan admits entities. -/
structure ScanRules where
  lookback : LookbackPolicy := {}
  /-- An update exactly at the watermark counts as dealt with. -/
  strict : Bool := true
  /-- Parts of locations that are ignored; none of them is empty. -/
  ignored : List String := []
  deriving Repr, Inhabited

namespace ScanRules

/-- The rules that pass over the given parts of locations, the empty ones left out. -/
def make (lookback : LookbackPolicy) (strict : Bool) (ignored : List String) : ScanRules :=
  { lookback, strict, ignored := ignored.filter (!·.isEmpty) }

/-- An update lies after the watermark of its dataset, if there is one. -/
def isNew (rules : ScanRules) (updateTime : Int) (prior : Option Int) : Bool :=
  match prior with
  | none => true
  | some prior => if rules.strict then prior < updateTime else prior ≤ updateTime

def admits (rules : ScanRules) (updateTime : Int) (prior : Option Int) (now : Int) : Bool :=
  rules.lookback.admits updateTime now && rules.isNew updateTime prior

def mentionsAny (location : Data) : List String → Except Fault Bool
  | [] => .ok false
  | part :: others => do
    if ← location.mentions part then return true
    mentionsAny location others

def ignores (rules : ScanRules) (location : Data) : Except Fault Bool :=
  if !location.isTruthy then .ok false else mentionsAny location rules.ignored

end ScanRules
end CatalogDelta
