import CatalogDelta.Lookback.Duration

/-!
# Lookback windows

An entity whose update lies further back than the window is not scheduled. Ages are compared in
whole milliseconds; an update in the future has a negative age.
-/

namespace CatalogDelta

/-- A window of time before now, or none, and whether its far edge belongs to it. -/
structure LookbackPolicy where
  lookback : Option Span := none
  inclusive : Bool := true
  deriving Repr, DecidableEq

namespace LookbackPolicy

def ofData (value : Data) (inclusive : Bool := true) : Except Fault LookbackPolicy := do
  return ⟨← Duration.parse value, inclusive⟩

def isEnabled (policy : LookbackPolicy) : Bool := policy.lookback.isSome

/-- An update at one time lies within the window at another, both in milliseconds. -/
def admits (policy : LookbackPolicy) (updateTime now : Int) : Bool :=
  match policy.lookback with
  | none => true
  | some span =>
    if policy.inclusive then now - updateTime ≤ span.millis else now - updateTime < span.millis

def windowText (policy : LookbackPolicy) : String :=
  match policy.lookback with
  | none => "None"
  | some span => span.text

def literal (policy : LookbackPolicy) : String :=
  let window :=
    match policy.lookback with
    | none => "None"
    | some span => span.literal
  "LookbackPolicy(lookback=" ++ window ++ ", inclusive=" ++
    (if policy.inclusive then "True" else "False") ++ ")"

end LookbackPolicy
end CatalogDelta
