import CatalogDelta.Data.Integer
import CatalogDelta.Decimal.Numeral
import CatalogDelta.Text.LetterCase

/-!
# Durations

A duration is written compactly, as amounts with units one after another (`1d12h`), or in the
international form (`P1DT12H`). A bare number counts days; nothing and blank text mean no duration.
-/

namespace CatalogDelta.Duration

/-- An amount: digits, and digits after a point if there is one. -/
structure Amount where
  whole : List Char
  fraction : List Char

def Amount.toFloat (amount : Amount) : Float :=
  Decimal.floatOfParts false amount.whole amount.fraction 0

def leadingDigits (text : List Char) : List Char × List Char := text.span Text.isDigit

def amount? (text : List Char) : Option (Amount × List Char) :=
  match leadingDigits text with
  | ([], _) => none
  | (whole, '.' :: rest) =>
    match leadingDigits rest with
    | ([], _) => some (⟨whole, []⟩, '.' :: rest)
    | (fraction, after) => some (⟨whole, fraction⟩, after)
  | (whole, rest) => some (⟨whole, []⟩, rest)

/-- The character is the given letter in either case. -/
def isLetter (letter c : Char) : Bool := Text.fold c = Text.fold letter

def component? (letter : Char) (text : List Char) : Option (Amount × List Char) :=
  match amount? text with
  | some (amount, c :: rest) => if isLetter letter c then some (amount, rest) else none
  | _ => none

/-- Read the components of some units in turn, each at most once. -/
def components : List (Char × Span.TimeUnit) → List Char →
    List (Span.TimeUnit × Amount) × List Char
  | [], text => ([], text)
  | (letter, unit) :: units, text =>
    match component? letter text with
    | some (amount, rest) =>
      let (others, after) := components units rest
      ((unit, amount) :: others, after)
    | none => components units text

def dateUnits : List (Char × Span.TimeUnit) := [('W', .week), ('D', .day)]

def timeUnits : List (Char × Span.TimeUnit) := [('H', .hour), ('M', .minute), ('S', .second)]

def iso? (text : List Char) : Option (List (Span.TimeUnit × Amount)) :=
  match text with
  | [] => none
  | mark :: rest =>
    if !isLetter 'P' mark then none
    else
      let (dates, rest) := components dateUnits rest
      match rest with
      | [] => some dates
      | mark :: rest =>
        if !isLetter 'T' mark then none
        else
          let (times, rest) := components timeUnits rest
          if rest.isEmpty then some (dates ++ times) else none

/-- What a unit at the front of a text is: the unit if it is spelled in plain letters, its spelling,
and the rest. -/
structure UnitToken where
  unit : Option Span.TimeUnit
  spelling : List Char
  rest : List Char

def unitOf? (spelling : String) : Option Span.TimeUnit :=
  if spelling = "ms" then some .millisecond
  else if spelling = "w" then some .week
  else if spelling = "d" then some .day
  else if spelling = "h" then some .hour
  else if spelling = "m" then some .minute
  else if spelling = "s" then some .second
  else none

def UnitToken.ofLetters (letters rest : List Char) : UnitToken :=
  let spelling := letters.map Text.lower
  ⟨unitOf? (String.ofList spelling), spelling, rest⟩

/-- Read a unit; two letters are preferred to one. -/
def unit? (text : List Char) : Option UnitToken :=
  match text with
  | [] => none
  | first :: rest =>
    let single :=
      if "wdhms".toList.any (isLetter · first) then some (UnitToken.ofLetters [first] rest)
      else none
    match rest with
    | second :: after =>
      if isLetter 'm' first && isLetter 's' second then
        some (UnitToken.ofLetters [first, second] after)
      else single
    | [] => single

def token? (text : List Char) : Option (Amount × UnitToken) := do
  let (amount, rest) ← amount? text
  return (amount, ← unit? rest)

/-- The fault of a span that cannot be formed. -/
def spanFault : Span.Error → Fault
  | .outOfRange => .outOfRange "duration out of range"
  | .notANumber => .invalidValue "cannot convert float NaN to integer"

/-- A span or the fault that it cannot be formed. -/
def liftSpan : Except Span.Error Span → Except Fault Span
  | .ok span => .ok span
  | .error problem => .error (spanFault problem)

def sumTokens : Nat → Span → Nat → List Char → Except Fault (Span × Nat × List Char)
  | 0, total, count, text => .ok (total, count, text)
  | fuel + 1, total, count, text =>
    match token? text with
    | none => .ok (total, count, text)
    | some (amount, token) =>
      match token.unit with
      | none => .error (.missingKey (String.ofList token.spelling))
      | some unit => do
        let span ← liftSpan (Span.ofAmounts [(unit, .real amount.toFloat)])
        let total ← liftSpan (total.add span)
        sumTokens fuel total (count + 1) token.rest

/-- The order in which the amounts of one duration are added up. -/
def unitRank : Span.TimeUnit → Nat
  | .millisecond => 0
  | .second => 1
  | .minute => 2
  | .hour => 3
  | .day => 4
  | .week => 5

def ofComponents (parts : List (Span.TimeUnit × Amount)) : Except Fault Span :=
  let inOrder := parts.mergeSort fun first second => unitRank first.1 ≤ unitRank second.1
  liftSpan (Span.ofAmounts (inOrder.map fun (unit, amount) => (unit, .real amount.toFloat)))

def fieldName : String := "lookback_duration"

/-- The text is no duration. -/
def unreadable (text : String) : Fault :=
  .configuration ("Cannot parse lookback duration " ++ Text.quoted text) (some fieldName)
    (.text text) (some "Use a compact form like '30d' or '12h', or ISO-8601 like 'P30D'.")

/-- Read a text without blanks at its ends. -/
def ofTrimmed (text : String) : Except Fault Span :=
  match iso? text.toList with
  | some (part :: parts) => ofComponents (part :: parts)
  | _ => do
    let (total, count, rest) ← sumTokens text.length ⟨0⟩ 0 text.toList
    if count = 0 || !rest.isEmpty then throw (unreadable text)
    return total

/-- The duration that a value stands for, its sign not yet looked at. -/
def readSigned : Data → Except Fault (Option Span)
  | .null => .ok none
  | .span value => .ok (some value)
  | .bool value =>
    .error (.configuration "Lookback duration must be a duration, not a boolean" (some fieldName)
      (.bool value))
  | .int days => (liftSpan (Span.ofAmounts [(.day, .whole days)])).map some
  | .float days => (liftSpan (Span.ofAmounts [(.day, .real days)])).map some
  | other =>
    let text := Text.trimmed other.shown
    if text.isEmpty then .ok none else (ofTrimmed text).map some

/-- The duration that a value stands for, if any; a negative one is refused. -/
def parse (value : Data) : Except Fault (Option Span) := do
  match ← readSigned value with
  | none => return none
  | some span =>
    if span.isNegative then
      throw (.configuration "Lookback duration cannot be negative" (some fieldName) value)
    return some span

end CatalogDelta.Duration
