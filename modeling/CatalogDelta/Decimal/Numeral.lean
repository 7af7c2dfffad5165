import CatalogDelta.Text.Classes

/-!
# Numbers in text

The numeral of a whole number is a sign, if any, and digits of any script, with single underscores
allowed between two digits; blanks around it are ignored. A decimal is a whole number of units of a
power of ten; the float nearest to it is its reading.
-/

namespace CatalogDelta.Decimal

/-! ## Whole numbers -/

/-- The most digits a numeral may have. -/
def digitLimit : Nat := 4300

/-- Why a text is not a whole number. -/
inductive NumeralError where
  | malformed
  | tooLong (digits : Nat)
  deriving Repr, DecidableEq

/-- Blanks that may surround a numeral; the separator controls are not among them. -/
def isNumeralBlank (c : Char) : Bool := Text.isBlank c && !(0x1C ≤ c.toNat && c.toNat ≤ 0x1F)

/-- Split a sign off the front: whether it is a minus, and the rest. -/
def splitSign : List Char → Bool × List Char
  | '-' :: rest => (true, rest)
  | '+' :: rest => (false, rest)
  | rest => (false, rest)

def digitRun : List Char → List Char × List Char
  | [] => ([], [])
  | '_' :: c :: rest =>
    if Text.isDigit c then
      let (digits, after) := digitRun rest
      (c :: digits, after)
    else ([], '_' :: c :: rest)
  | c :: rest =>
    if Text.isDigit c then
      let (digits, after) := digitRun rest
      (c :: digits, after)
    else ([], c :: rest)

/-- Trim the blanks that may surround a numeral. -/
def trimNumeral (text : List Char) : List Char :=
  ((text.dropWhile isNumeralBlank).reverse.dropWhile isNumeralBlank).reverse

def parseInteger (text : List Char) : Except NumeralError Int :=
  let (negative, body) := splitSign (trimNumeral text)
  match body with
  | '_' :: _ => .error .malformed
  | _ =>
    let (digits, rest) := digitRun body
    if digits.length > digitLimit then .error (.tooLong digits.length)
    else if digits.isEmpty || !rest.isEmpty then .error .malformed
    else
      let size : Int := Text.digitsValue digits
      .ok (if negative then -size else size)

def digitsOf (n : Nat) : List Char := Nat.toDigits 10 n

def showInteger (n : Int) : List Char :=
  if n < 0 then '-' :: digitsOf n.natAbs else digitsOf n.natAbs

/-! ## Decimal fractions -/

/-- The float nearest to `units * 10 ^ power`. Sizes beyond the range of floats are settled by the
count of digits, so that no large power is ever formed. -/
def nearestFloat (negative : Bool) (units : Nat) (power : Int) : Float :=
  let magnitude : Int := (digitsOf units).length + power
  let size :=
    if units = 0 then 0
    else if magnitude > 400 then 1.0 / 0.0
    else if magnitude < -400 then 0
    else if power < 0 then Float.ofScientific units true power.natAbs
    else Float.ofScientific units false power.natAbs
  if negative then -size else size

def floatOfParts (negative : Bool) (whole fraction : List Char) (exponent : Int) : Float :=
  nearestFloat negative (Text.digitsValue (whole ++ fraction)) (exponent - fraction.length)

/-- Digits of an exponent, read no further than matters to a float. -/
def exponentOf (negative : Bool) (digits : List Char) : Int :=
  let size : Int := Text.digitsValue digits
  if negative then -size else size

end CatalogDelta.Decimal
