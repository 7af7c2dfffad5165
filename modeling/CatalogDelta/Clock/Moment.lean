import CatalogDelta.Clock.Calendar
import CatalogDelta.Clock.Span
import CatalogDelta.Text.Classes

/-!
# Points in time

A moment is a date and a time of day to the microsecond, with the distance of its clock from
universal time if that is known. A moment without one is read as universal time.
-/

namespace CatalogDelta

/-- A date and a time of day. -/
structure Moment where
  year : Int
  month : Nat
  day : Nat
  hour : Nat := 0
  minute : Nat := 0
  second : Nat := 0
  micro : Nat := 0
  /-- How far the clock is ahead of universal time, in microseconds. -/
  offset : Option Int := none
  deriving Repr, DecidableEq, Inhabited

namespace Moment

/-- Every part of the date and the time of day is within its range. -/
def isValid (moment : Moment) : Bool :=
  1 ≤ moment.year && moment.year ≤ 9999 && 1 ≤ moment.month && moment.month ≤ 12 &&
    1 ≤ moment.day && moment.day ≤ Calendar.daysInMonth moment.year moment.month &&
    moment.hour < 24 && moment.minute < 60 && moment.second < 60 && moment.micro < 1000000 &&
    (moment.offset.all fun offset => offset.natAbs < Span.microsPerDay.natAbs)

/-- Microseconds since the start of 1970 in universal time. -/
def epochMicros (moment : Moment) : Int :=
  let seconds := Calendar.dayNumber moment.year moment.month moment.day * 86400 +
    moment.hour * 3600 + moment.minute * 60 + moment.second
  seconds * 1000000 + moment.micro - moment.offset.getD 0

/-- Seconds since the start of 1970, as the nearest float. -/
def epochSeconds (moment : Moment) : Float :=
  let micros := moment.epochMicros
  let size := Float.ofScientific micros.natAbs true 6
  if micros < 0 then -size else size

/-- The moment so many microseconds after the start of 1970, in universal time. -/
def ofEpochMicros (micros : Int) : Moment :=
  let (year, month, day) := Calendar.dateOf (micros.fdiv Span.microsPerDay)
  let rest := (micros.fmod Span.microsPerDay).toNat
  let seconds := rest / 1000000
  { year, month, day
    hour := seconds / 3600
    minute := seconds / 60 % 60
    second := seconds % 60
    micro := rest % 1000000
    offset := some 0 }

def clockText (mark : String) (moment : Moment) : String :=
  Span.padded 4 moment.year.toNat ++ "-" ++ Span.padded 2 moment.month ++ "-" ++
    Span.padded 2 moment.day ++ mark ++ Span.padded 2 moment.hour ++ ":" ++
    Span.padded 2 moment.minute ++ ":" ++ Span.padded 2 moment.second

def offsetText (offset : Int) : String :=
  let size := offset.natAbs
  let seconds := size / 1000000
  let base := (if offset < 0 then "-" else "+") ++ Span.padded 2 (seconds / 3600) ++ ":" ++
    Span.padded 2 (seconds / 60 % 60)
  let micros := size % 1000000
  if micros ≠ 0 then base ++ ":" ++ Span.padded 2 (seconds % 60) ++ "." ++ Span.padded 6 micros
  else if seconds % 60 ≠ 0 then base ++ ":" ++ Span.padded 2 (seconds % 60)
  else base

def textWith (mark : String) (moment : Moment) : String :=
  moment.clockText mark ++
    (if moment.micro = 0 then "" else "." ++ Span.padded 6 moment.micro) ++
    (moment.offset.map offsetText).getD ""

def text (moment : Moment) : String := moment.textWith " "

def isoText (moment : Moment) : String := moment.textWith "T"

def stamp (moment : Moment) : String :=
  moment.clockText "T" ++ "." ++ Span.padded 3 (moment.micro / 1000) ++ "Z"

def literal (moment : Moment) : String :=
  let tail :=
    if moment.micro ≠ 0 then [toString moment.second, toString moment.micro]
    else if moment.second ≠ 0 then [toString moment.second]
    else []
  let zone :=
    match moment.offset with
    | none => []
    | some offset =>
      if offset = 0 then ["tzinfo=datetime.timezone.utc"]
      else ["tzinfo=datetime.timezone(" ++ (Span.literal ⟨offset⟩) ++ ")"]
  let parts := [toString moment.year, toString moment.month, toString moment.day,
    toString moment.hour, toString moment.minute] ++ tail ++ zone
  "datetime.datetime(" ++ ", ".intercalate parts ++ ")"

end Moment
end CatalogDelta
