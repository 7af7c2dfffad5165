import CatalogDelta.Decimal.Numeral
import CatalogDelta.Text.Pieces

/-!
# Numbers in settings

A number may be written as text, with blanks around it. A whole number may begin with zeros and a
plus and end in a point and zeros; single underscores may stand between digits.
-/

namespace CatalogDelta.Settings

/-- Why a text is not a whole number. -/
inductive WholeError where
  | malformed
  | tooLong
  deriving Repr, DecidableEq

def isPlainDigit (c : Char) : Bool := '0' ≤ c && c ≤ '9'

/-- A whole number in its plain form: a minus if it has one, and digits that begin with a zero only
if there is no other. -/
def plainWhole (text : List Char) : Except WholeError Int :=
  let (negative, body) :=
    match text with
    | '-' :: rest => (true, rest)
    | rest => (false, rest)
  let (digits, rest) := body.span isPlainDigit
  if digits.length > Decimal.digitLimit then .error .tooLong
  else if digits.isEmpty || !rest.isEmpty || (digits.head? = some '0' && 1 < digits.length) then
    .error .malformed
  else
    let size : Int := Text.digitsValue digits
    .ok (if negative then -size else size)

/-- What is left of a text after zeros and underscores at its front, where `last` was the last of
them: a zero before a point stays, and so does the last one of nothing else. -/
def withoutZeros? (last : Char) : List Char → Option (List Char)
  | [] => some [last]
  | c :: rest =>
    if c = '0' || c = '_' then withoutZeros? c rest
    else if isPlainDigit c || c = '-' then some (c :: rest)
    else if c = '.' then some (last :: c :: rest)
    else none

/-- The text of a whole number without zeros at its front. -/
def withoutFrontZeros? : List Char → Option (List Char)
  | [] => none
  | c :: rest =>
    if c = '0' then withoutZeros? c rest
    else if isPlainDigit c || c = '-' then some (c :: rest)
    else none

/-- The text of a whole number without a point and zeros at its end. -/
def withoutZeroFraction? (text : List Char) : Option (List Char) :=
  match Text.cutFirst '.' text with
  | none => some text
  | some (whole, fraction) =>
    if !fraction.isEmpty && fraction.all (· = '0') then some whole else none

/-- The text without its underscores, if none stands at either end and no two together. -/
def ungrouped? (text : List Char) : Option (List Char) :=
  let groups := Text.pieces '_' text
  if groups.length = 1 || groups.all (!·.isEmpty) then some groups.flatten else none

/-- The text without a plus at its front; a minus may not follow it. -/
def withoutPlus? : List Char → Option (List Char)
  | '+' :: '-' :: _ => none
  | '+' :: rest => some rest
  | text => some text

/-- The plain form of a whole number. -/
def cleaned? (text : List Char) : Option (List Char) := do
  let unsigned ← withoutPlus? (Decimal.trimNumeral text)
  let short ← withoutFrontZeros? unsigned
  let whole ← withoutZeroFraction? short
  ungrouped? whole

def wholeOfText (text : List Char) : Except WholeError Int :=
  match plainWhole text with
  | .error .malformed =>
    match cleaned? text with
    | some plain => plainWhole plain
    | none => .error .malformed
  | read => read

/-- The exponent at the end of a number: nothing for a malformed one. -/
def exponentOf? : List Char → Option Int
  | [] => some 0
  | mark :: rest =>
    if mark = 'e' || mark = 'E' then
      let (negative, digits) := Decimal.splitSign rest
      if !digits.isEmpty && digits.all isPlainDigit then
        some (Decimal.exponentOf negative digits)
      else none
    else none

/-- The number of a text without sign: a word, or digits with a point and an exponent. -/
def unsignedReal? (negative : Bool) (text : List Char) : Option Float :=
  let word := String.ofList (text.map Char.toLower)
  if word = "inf" || word = "infinity" then some (if negative then -(1.0 / 0.0) else 1.0 / 0.0)
  else if word = "nan" then some (0.0 / 0.0)
  else
    let (whole, afterWhole) := text.span isPlainDigit
    let (fraction, rest) :=
      match afterWhole with
      | '.' :: afterPoint => afterPoint.span isPlainDigit
      | _ => ([], afterWhole)
    if whole.isEmpty && fraction.isEmpty then none
    else do return Decimal.floatOfParts negative whole fraction (← exponentOf? rest)

/-- The number of a text without blanks and underscores. -/
def plainReal? (text : List Char) : Option Float :=
  let (negative, body) := Decimal.splitSign text
  unsignedReal? negative body

def realOfText? (text : List Char) : Option Float :=
  match plainReal? (Decimal.trimNumeral text) with
  | some real => some real
  | none => if text.contains '_' then (ungrouped? text).bind plainReal? else none

end CatalogDelta.Settings
