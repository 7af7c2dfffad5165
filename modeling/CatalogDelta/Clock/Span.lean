import CatalogDelta.Decimal.Binary

/-!
# Lengths of time

A span is a whole number of microseconds. `Span.ofUnits` turns amounts in weeks, days, hours and so
on into a span; fractions are carried as floats and the last one is rounded to a whole microsecond,
a half to the even one.
-/

namespace CatalogDelta

/-- A length of time in microseconds. -/
structure Span where
  micros : Int
  deriving Repr, DecidableEq, Inhabited

namespace Span

/-- The longest span counts fewer than a thousand million days. -/
def dayLimit : Int := 999999999

/-- Microseconds in a day. -/
def microsPerDay : Int := 86400000000

/-- Why amounts do not make a span. -/
inductive Error where
  /-- Too many days, or an amount without bound. -/
  | outOfRange
  /-- An amount that is not a number. -/
  | notANumber
  deriving Repr, DecidableEq

/-- An amount of some unit. -/
inductive Amount where
  | whole (n : Int)
  | real (x : Float)

/-- A unit of time. -/
inductive TimeUnit where
  | week | day | hour | minute | second | millisecond
  deriving Repr, DecidableEq

/-- Microseconds in one unit. -/
def TimeUnit.micros : TimeUnit → Nat
  | .week => 604800000000
  | .day => 86400000000
  | .hour => 3600000000
  | .minute => 60000000
  | .second => 1000000
  | .millisecond => 1000

/-- The whole days of a span, rounded down. -/
def days (span : Span) : Int := span.micros.fdiv microsPerDay

/-- A span of so many microseconds, if it is within the limit. -/
def ofMicros? (micros : Int) : Except Error Span :=
  let span : Span := ⟨micros⟩
  if span.days.natAbs ≤ dayLimit.natAbs then .ok span else .error .outOfRange

/-- A float cut into its whole part and the signed fraction that is left. -/
def splitFloat (x : Float) : Except Error (Int × Float) :=
  match (Decimal.Reading.ofFloat x) with
  | .notANumber => .error .notANumber
  | .infinite _ => .error .outOfRange
  | .finite negative size =>
    let whole : Int := size.floor
    let signed := if negative then -whole else whole
    .ok (signed, x - Float.ofInt signed)

/-- Whole microseconds so far, and a fraction still to be rounded. -/
structure Sum where
  whole : Int
  fraction : Float

/-- Add an amount of a unit, the whole part exactly and the fraction as a float. -/
def Sum.add (sum : Sum) (unit : TimeUnit) : Amount → Except Error Sum
  | .whole n => .ok { sum with whole := sum.whole + n * unit.micros }
  | .real x => do
    let (whole, rest) ← splitFloat x
    let exact := sum.whole + whole * unit.micros
    if rest == 0 then return { sum with whole := exact }
    let (extra, left) ← splitFloat (Float.ofNat unit.micros * rest)
    return ⟨exact + extra, sum.fraction + left⟩

/-- The whole number nearest to a fraction, a half to the even one. -/
def nearestEven (numerator : Int) (denominator : Nat) : Int :=
  let below := numerator.fdiv denominator
  let rest := 2 * numerator.fmod denominator
  if rest < denominator then below
  else if denominator < rest then below + 1
  else if below % 2 = 0 then below else below + 1

/-- Round the fraction left over, a half so that the total becomes even. -/
def Sum.total (sum : Sum) : Int :=
  match Decimal.Reading.ofFloat sum.fraction with
  | .finite negative size =>
    let (up, down) := size.fraction
    let left : Int := if negative then -up else up
    nearestEven (sum.whole * down + left) down
  | _ => sum.whole

/-- The span of several amounts together, shorter units first. -/
def ofAmounts (amounts : List (TimeUnit × Amount)) : Except Error Span := do
  let sum ← amounts.foldlM (fun sum (unit, amount) => sum.add unit amount) (⟨0, 0⟩ : Sum)
  ofMicros? sum.total

def add (first second : Span) : Except Error Span := ofMicros? (first.micros + second.micros)

/-- Whole milliseconds, rounded down. -/
def millis (span : Span) : Int := span.micros.fdiv 1000

def isNegative (span : Span) : Bool := span.micros < 0

/-- Seconds into the last day. -/
def secondOfDay (span : Span) : Nat := ((span.micros.fmod microsPerDay).toNat) / 1000000

/-- Microseconds into the last second. -/
def microOfSecond (span : Span) : Nat := ((span.micros.fmod microsPerDay).toNat) % 1000000

/-- A number in at least so many digits. -/
def padded (width value : Nat) : String :=
  let digits := toString value
  "".pushn '0' (width - digits.length) ++ digits

/-- Hours, minutes and seconds after the days: `30 days, 0:00:00`, `1 day, 12:00:00`. -/
def text (span : Span) : String :=
  let seconds := span.secondOfDay
  let clock := toString (seconds / 3600) ++ ":" ++ padded 2 (seconds / 60 % 60) ++ ":" ++
    padded 2 (seconds % 60)
  let fraction := if span.microOfSecond = 0 then "" else "." ++ padded 6 span.microOfSecond
  let front :=
    if span.days = 0 then ""
    else toString span.days ++ (if span.days.natAbs = 1 then " day, " else " days, ")
  front ++ clock ++ fraction

/-- The span with each part that is not zero named. -/
def literal (span : Span) : String :=
  let parts :=
    (if span.days = 0 then [] else ["days=" ++ toString span.days]) ++
    (if span.secondOfDay = 0 then [] else ["seconds=" ++ toString span.secondOfDay]) ++
    (if span.microOfSecond = 0 then [] else ["microseconds=" ++ toString span.microOfSecond])
  "datetime.timedelta(" ++ (if parts.isEmpty then "0" else ", ".intercalate parts) ++ ")"

end Span
end CatalogDelta
