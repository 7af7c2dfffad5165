import CatalogDelta.Clock.Moment

/-!
# Reading moments in the international notation

A date is written by month and day or by week, with hyphens or without; a time of day follows after
any one character, with colons or without, and may end in an offset from universal time.
-/

namespace CatalogDelta.Iso

/-- The character is an ASCII digit. -/
def isAsciiDigit (c : Char) : Bool := '0' ≤ c && c ≤ '9'

/-- A number of exactly so many ASCII digits, and the rest. -/
def fixedDigits? : Nat → List Char → Option (Nat × List Char)
  | 0, rest => some (0, rest)
  | width + 1, c :: rest =>
    if isAsciiDigit c then do
      let (tail, after) ← fixedDigits? width rest
      return ((c.toNat - 0x30) * Nat.pow 10 width + tail, after)
    else none
  | _ + 1, [] => none

def charAt (text : List Char) (place : Nat) : Char := text.getD place '\x00'

/-- Where the date ends and the mark before the time of day stands. -/
def datePart? (text : List Char) : Option Nat :=
  let size := text.length
  if size < 7 then none
  else if size = 7 then some 7
  else if charAt text 4 = '-' then
    if charAt text 5 = 'W' then
      if size > 8 ∧ charAt text 8 = '-' then
        if size = 9 then none
        else if size > 10 ∧ isAsciiDigit (charAt text 10) then some 8
        else some 10
      else some 8
    else some 10
  else if charAt text 4 = 'W' then
    let stop := 7 + ((text.drop 7).takeWhile isAsciiDigit).length
    if stop < 9 then some stop
    else if stop % 2 = 0 then some 7
    else some 8
  else some 8

def date? (text : List Char) : Option (Int × Nat × Nat) := do
  let (year, rest) ← fixedDigits? 4 text
  let hyphens := charAt rest 0 = '-'
  let skip := fun (rest : List Char) =>
    if hyphens then (if charAt rest 0 = '-' then some (rest.drop 1) else none) else some rest
  let rest := if hyphens then rest.drop 1 else rest
  if charAt rest 0 = 'W' then
    let (week, rest) ← fixedDigits? 2 (rest.drop 1)
    if rest.isEmpty then Calendar.dateOfWeek? year week 1
    else
      let (day, _) ← fixedDigits? 1 (← skip rest)
      Calendar.dateOfWeek? year week day
  else
    let (month, rest) ← fixedDigits? 2 rest
    let (day, _) ← fixedDigits? 2 (← skip rest)
    return (year, month, day)

/-- A time of day: its parts, and whether something may be left over. -/
structure TimeParts where
  hour : Nat := 0
  minute : Nat := 0
  second : Nat := 0
  micro : Nat := 0
  leftover : Bool := false

/-- Read the fraction of a second: up to six digits, and any further digits dropped. -/
def fraction? (text : List Char) (length : Nat) : Option (Nat × Bool) := do
  let width := min 6 length
  let (value, rest) ← fixedDigits? width text
  let rest := rest.dropWhile isAsciiDigit
  return (value * Nat.pow 10 (6 - width), charAt rest 0 ≠ '\x00')

/-- Read hours, minutes, seconds and a fraction. `window` counts the characters up to the offset;
the text itself may go on. -/
def timeParts? (text : List Char) (window : Nat) : Option TimeParts :=
  go 3 [] false text window
where
  /-- Assemble the parts read, most recent first. -/
  assemble (values : List Nat) (micro : Nat) (leftover : Bool) : TimeParts :=
    let inOrder := values.reverse
    ⟨inOrder.getD 0 0, inOrder.getD 1 0, inOrder.getD 2 0, micro, leftover⟩
  /-- Read the remaining parts; `colons` says whether colons separate them. -/
  go : Nat → List Nat → Bool → List Char → Nat → Option TimeParts
    | 0, values, _, text, window => do
      let (micro, leftover) ← fraction? text window
      return assemble values micro leftover
    | left + 1, values, colons, text, window => do
      let (value, rest) ← fixedDigits? 2 text
      let values := value :: values
      let mark := charAt rest 0
      let colons := if left = 2 then mark = ':' else colons
      if window ≤ 3 then return assemble values 0 (mark ≠ '\x00')
      else if colons ∧ mark = ':' then go left values colons (rest.drop 1) (window - 3)
      else if mark = '.' ∨ mark = ',' then
        let (micro, leftover) ← fraction? (rest.drop 1) (window - 3)
        return assemble values micro leftover
      else if colons then none
      else go left values colons rest (window - 2)

/-- Read a time of day with an offset, if any. -/
def time? (text : List Char) : Option (TimeParts × Option Int) := do
  let isMark := fun c => c = '+' || c = '-' || c = 'Z'
  let body := text.takeWhile (!isMark ·)
  let parts ← timeParts? text body.length
  match text.drop body.length with
  | [] => if parts.leftover then none else return (parts, none)
  | 'Z' :: rest => if charAt rest 0 = '\x00' then return (parts, some 0) else none
  | sign :: zone =>
    let away ← timeParts? zone zone.length
    if away.leftover then none
    else
      let seconds : Int := away.hour * 3600 + away.minute * 60 + away.second
      let micros := if seconds = 0 then 0 else seconds * 1000000 + away.micro
      return (parts, some (if sign = '-' then -micros else micros))

/-- A date and a time of day as they are written, within their ranges or not. -/
def written? (source : String) : Option Moment := do
  let text := source.toList
  let place ← datePart? text
  let (year, month, day) ← date? (text.take place)
  match text.drop place with
  | [] => return { year, month, day }
  | _ :: clock =>
    let (parts, offset) ← time? clock
    return { year, month, day, hour := parts.hour, minute := parts.minute, second := parts.second,
             micro := parts.micro, offset }

def moment? (source : String) : Option Moment := (written? source).filter Moment.isValid

end CatalogDelta.Iso
