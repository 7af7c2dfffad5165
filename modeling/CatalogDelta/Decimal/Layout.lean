import CatalogDelta.Decimal.Binary

/-!
# Laying out decimal numbers

A number is written in the fewest digits that read back. For one digit, then two, and so on up to
seventeen, the two neighbours of the value on that decimal grid are tried; the first grid with a
neighbour that rounds back to the value wins. The digits are laid out with a point when the leading
one is between the fourth place after the point and the sixteenth before it, and with an exponent of
at least two digits otherwise.
-/

namespace CatalogDelta.Decimal

/-- Digits with the power of ten of the first one: `d₁.d₂d₃… * 10 ^ power`. -/
structure Digits where
  digits : List Char
  power : Int
  deriving Repr, DecidableEq

def leadingPower (numerator denominator : Nat) : Int :=
  if denominator ≤ numerator then
    ((Nat.toDigits 10 (numerator / denominator)).length : Int) - 1
  else
    let guess := (Nat.toDigits 10 denominator).length - (Nat.toDigits 10 numerator).length
    if denominator ≤ numerator * Nat.pow 10 guess then -(guess : Int)
    else -(guess : Int) - 1

/-- The decimal `units * 10 ^ power` rounds to the magnitude; the ends of the rounding interval
belong to it exactly when the mantissa is even. -/
def readsBack (size : Binary) (units : Nat) (power : Int) : Bool :=
  let (quarterUp, quarterDown) := powerFraction 2 (size.exponent - 2)
  let (tenUp, tenDown) := powerFraction 10 power
  let target := units * tenUp * quarterDown
  let scale := quarterUp * tenDown
  let low := (if size.narrowBelow then 4 * size.mantissa - 1 else 4 * size.mantissa - 2) * scale
  let high := (4 * size.mantissa + 2) * scale
  if size.mantissa % 2 = 0 then low ≤ target && target ≤ high
  else low < target && target < high

/-- The grid point nearest to the magnitude that reads back, on the grid of one power of ten. -/
def nearestOnGrid (size : Binary) (power : Int) : Option Nat :=
  let (up, down) := size.fraction
  let (tenUp, tenDown) := powerFraction 10 power
  let numerator := up * tenDown
  let denominator := down * tenUp
  let near := roundHalfEven numerator denominator
  let below := numerator / denominator
  let far := if near = below then below + 1 else below
  if readsBack size near power then some near
  else if readsBack size far power then some far
  else none

def dropEndZeros (digits : List Char) : List Char :=
  (digits.reverse.dropWhile (· = '0')).reverse

def shortestFrom (size : Binary) (leading : Int) : Nat → Nat → Digits
  | 0, _ => ⟨['0'], 0⟩
  | fuel + 1, count =>
    match nearestOnGrid size (leading - count + 1) with
    | some units =>
      let digits := Nat.toDigits 10 units
      ⟨dropEndZeros digits, leading - count + digits.length⟩
    | none => shortestFrom size leading fuel (count + 1)

def shortest (size : Binary) : Digits :=
  if size.mantissa = 0 then ⟨['0'], 0⟩
  else
    let (up, down) := size.fraction
    shortestFrom size (leadingPower up down) 17 1

/-! ## Layout -/

/-- How shortest numbers are laid out. -/
structure Style where
  /-- The lowest leading power that is written with a point. -/
  lowest : Int
  /-- The highest leading power that is written with a point. -/
  highest : Int
  /-- A whole number keeps one zero after the point. -/
  keepsPoint : Bool
  /-- The fewest digits of an exponent. -/
  exponentWidth : Nat
  notANumber : String
  infinity : String

def Style.plain : Style := ⟨-4, 15, true, 2, "nan", "inf"⟩

/-- The style of numbers in stored documents, which differ in the words for what is not finite. -/
def Style.document : Style := ⟨-4, 15, true, 2, "NaN", "Infinity"⟩

def padFront (width : Nat) (digits : List Char) : List Char :=
  List.replicate (width - digits.length) '0' ++ digits

def exponentText (width : Nat) (power : Int) : List Char :=
  'e' :: (if power < 0 then '-' else '+') :: padFront width (Nat.toDigits 10 power.natAbs)

def positional (keepsPoint : Bool) (number : Digits) : List Char :=
  if number.power < 0 then
    '0' :: '.' :: List.replicate (number.power.natAbs - 1) '0' ++ number.digits
  else
    let count := number.power.toNat + 1
    let whole := number.digits.take count ++ List.replicate (count - number.digits.length) '0'
    match number.digits.drop count with
    | [] => if keepsPoint then whole ++ ['.', '0'] else whole
    | fraction => whole ++ '.' :: fraction

def scientific (width : Nat) (number : Digits) : List Char :=
  let body :=
    match number.digits with
    | first :: second :: rest => first :: '.' :: second :: rest
    | digits => digits
  body ++ exponentText width number.power

def Style.render (style : Style) (x : Float) : String :=
  match Reading.ofFloat x with
  | .notANumber => style.notANumber
  | .infinite negative => (if negative then "-" else "") ++ style.infinity
  | .finite negative size =>
    let number := shortest size
    let body :=
      if style.lowest ≤ number.power ∧ number.power ≤ style.highest then
        positional style.keepsPoint number
      else scientific style.exponentWidth number
    String.ofList (if negative then '-' :: body else body)

/-- A magnitude with a fixed number of digits after the point, a half rounded to even. -/
def fixedPoint (places : Nat) (size : Binary) : List Char :=
  let (up, down) := size.fraction
  let digits := padFront (places + 1) (Nat.toDigits 10 (roundHalfEven (up * Nat.pow 10 places) down))
  let whole := digits.take (digits.length - places)
  if places = 0 then whole else whole ++ '.' :: digits.drop (digits.length - places)

def fixed (places : Nat) (x : Float) : String :=
  match Reading.ofFloat x with
  | .notANumber => "nan"
  | .infinite negative => if negative then "-inf" else "inf"
  | .finite negative size =>
    String.ofList (if negative then '-' :: fixedPoint places size else fixedPoint places size)

/-- The digits of a magnitude rounded to a count of significant digits, a half to even. -/
def significant (count : Nat) (size : Binary) : Digits :=
  if size.mantissa = 0 then ⟨List.replicate count '0', 0⟩
  else
    let (up, down) := size.fraction
    let leading := leadingPower up down
    let (tenUp, tenDown) := powerFraction 10 (leading - count + 1)
    let digits := Nat.toDigits 10 (roundHalfEven (up * tenDown) (down * tenUp))
    ⟨digits.take count, leading + (digits.length - count)⟩

end CatalogDelta.Decimal
