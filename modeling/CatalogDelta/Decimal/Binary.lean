/-!
# The exact value of a binary fraction

A finite float is `mantissa * 2 ^ exponent`. Comparisons, rounding and printing are done on these
two whole numbers, so they are exact.
-/

namespace CatalogDelta.Decimal

/-- The magnitude of a finite float. -/
structure Binary where
  mantissa : Nat
  exponent : Int
  /-- The float below lies at half the usual distance. -/
  narrowBelow : Bool
  deriving Repr, DecidableEq

/-- What a float stands for. -/
inductive Reading where
  | notANumber
  | infinite (negative : Bool)
  | finite (negative : Bool) (size : Binary)
  deriving Repr, DecidableEq

def Reading.ofBits (bits : UInt64) : Reading :=
  let word := bits.toNat
  let negative : Bool := word / Nat.pow 2 63 == 1
  let biased : Nat := word / Nat.pow 2 52 % Nat.pow 2 11
  let fraction : Nat := word % Nat.pow 2 52
  if biased = 2047 then if fraction = 0 then .infinite negative else .notANumber
  else if biased = 0 then .finite negative ⟨fraction, -1074, false⟩
  else .finite negative ⟨fraction + Nat.pow 2 52, (biased : Int) - 1075, fraction = 0 && biased > 1⟩

def Reading.ofFloat (x : Float) : Reading := .ofBits x.toBits

/-- A power of a base as a fraction, for exponents of either sign. -/
def powerFraction (base : Nat) (exponent : Int) : Nat × Nat :=
  if exponent < 0 then (1, base.pow exponent.natAbs) else (base.pow exponent.natAbs, 1)

def Binary.fraction (size : Binary) : Nat × Nat :=
  let (up, down) := powerFraction 2 size.exponent
  (size.mantissa * up, down)

def Binary.floor (size : Binary) : Nat := size.fraction.1 / size.fraction.2

/-- The quotient rounded to the nearest whole number, a half to the even one. -/
def roundHalfEven (numerator denominator : Nat) : Nat :=
  let whole := numerator / denominator
  let rest := 2 * (numerator % denominator)
  if rest < denominator then whole
  else if denominator < rest then whole + 1
  else if whole % 2 = 0 then whole else whole + 1

/-- The whole number a float is cut down to, toward zero; none for what is not finite. -/
def Reading.truncate? : Reading → Option Int
  | .finite negative size => some (if negative then -(size.floor : Int) else size.floor)
  | _ => none

end CatalogDelta.Decimal
