import CatalogDelta.Decimal.Numeral
import CatalogDelta.Json.Value

/-!
# Reading JSON

The reader keeps the order of object members; of equal names the last value wins at the first place.
The words for infinity and for what is not a number are admitted, and so are escapes for a unit of a
surrogate pair without its partner. A failure says what was expected and how much of the text was
left.
-/

namespace CatalogDelta.Json

/-- Why a text is no JSON value. -/
inductive Complaint where
  | expectingValue
  | expectingName
  | expectingColon
  | expectingComma
  | extraData
  | unterminatedText
  | controlCharacter
  | badEscape
  | badUnicodeEscape
  | byteOrderMark
  | longNumeral (digits : Nat)
  deriving Repr, DecidableEq

/-- A complaint with the number of characters left where it arose. -/
structure Stop where
  complaint : Complaint
  left : Nat
  deriving Repr, DecidableEq

/-- The characters that may stand between tokens. -/
def isGap (c : Char) : Bool := c = ' ' || c = '\t' || c = '\n' || c = '\r'

def skipGap (text : List Char) : List Char := text.dropWhile isGap

def hexValue? (c : Char) : Option Nat :=
  if '0' ≤ c ∧ c ≤ '9' then some (c.toNat - 0x30)
  else if 'a' ≤ c ∧ c ≤ 'f' then some (c.toNat - 0x57)
  else if 'A' ≤ c ∧ c ≤ 'F' then some (c.toNat - 0x37)
  else none

def hexQuad? : List Char → Option Nat
  | a :: b :: c :: d :: _ => do
    return (((← hexValue? a) * 16 + (← hexValue? b)) * 16 + (← hexValue? c)) * 16 + (← hexValue? d)
  | _ => none

def escapeTarget? : Char → Option Char
  | '"' => some '"'
  | '\\' => some '\\'
  | '/' => some '/'
  | 'b' => some '\x08'
  | 'f' => some '\x0c'
  | 'n' => some '\n'
  | 'r' => some '\r'
  | 't' => some '\t'
  | _ => none

/-- The code point of two units that make a pair. -/
def paired (high low : Nat) : Nat := 0x10000 + (high - 0xD800) * 0x400 + (low - 0xDC00)

/-- What follows the mark of a unicode escape: its code point, and the rest after its digits. Two
units of a pair make one code point; a unit without its partner is one by itself. -/
def unicodeEscape (afterMark : List Char) : Except Stop (CodePoint × List Char) :=
  let stop : Stop := ⟨.badUnicodeEscape, afterMark.length + 1⟩
  if afterMark.length < 5 then .error stop
  else
    match hexQuad? afterMark with
    | none => .error stop
    | some unit =>
      let rest := afterMark.drop 4
      match rest with
      | '\\' :: 'u' :: second =>
        if CodePoint.isHighUnit unit && second.length > 4 then
          match hexQuad? second with
          | none => .error ⟨.badUnicodeEscape, second.length + 1⟩
          | some partner =>
            if CodePoint.isLowUnit partner then .ok (Fin.ofNat _ (paired unit partner), second.drop 4)
            else .ok (Fin.ofNat _ unit, rest)
        else .ok (Fin.ofNat _ unit, rest)
      | _ => .ok (Fin.ofNat _ unit, rest)

/-- The rest of a text literal after its opening mark; `opening` is how much was left there. -/
def textBody (opening : Nat) : Nat → List Char → Except Stop (Points × List Char)
  | 0, _ => .error ⟨.unterminatedText, opening⟩
  | _ + 1, [] => .error ⟨.unterminatedText, opening⟩
  | fuel + 1, c :: rest =>
    if c = '"' then .ok ([], rest)
    else if c = '\\' then
      match rest with
      | [] => .error ⟨.unterminatedText, opening⟩
      | 'u' :: digits => do
        let (point, after) ← unicodeEscape digits
        let (points, after) ← textBody opening fuel after
        return (point :: points, after)
      | mark :: after =>
        match escapeTarget? mark with
        | none => .error ⟨.badEscape, rest.length + 1⟩
        | some char => do
          let (points, after) ← textBody opening fuel after
          return (.ofChar char :: points, after)
    else if c.toNat < 0x20 then .error ⟨.controlCharacter, rest.length + 1⟩
    else do
      let (points, after) ← textBody opening fuel rest
      return (.ofChar c :: points, after)

def textLiteral (afterMark : List Char) : Except Stop (Points × List Char) :=
  textBody (afterMark.length + 1) (afterMark.length + 1) afterMark

/-- An exponent as it was written. -/
structure Exponent where
  mark : Char
  sign : Option Char
  digits : List Char

/-- A numeral: its parts as they were written. -/
structure Numeral where
  negative : Bool
  whole : List Char
  /-- The digits after the point, if there is one. -/
  fraction : Option (List Char)
  exponent : Option Exponent

def Exponent.power (exponent : Exponent) : Int :=
  Decimal.exponentOf (exponent.sign = some '-') exponent.digits

/-- The ASCII digits at the front. -/
def leadingDigits (text : List Char) : List Char × List Char := text.span Char.isDigit

/-- Read the whole part of a numeral: a zero, or digits that do not begin with one. -/
def wholePart? : List Char → Option (List Char × List Char)
  | '0' :: rest => some (['0'], rest)
  | c :: rest => if c.isDigit then some (leadingDigits (c :: rest)) else none
  | [] => none

/-- Whether there is a minus, and what follows it. -/
def signPart : List Char → Bool × List Char
  | '-' :: rest => (true, rest)
  | rest => (false, rest)

/-- The digits after a point, if there are any; a point without digits is left. -/
def fractionPart : List Char → Option (List Char) × List Char
  | '.' :: after =>
    let (digits, rest) := leadingDigits after
    if digits.isEmpty then (none, '.' :: after) else (some digits, rest)
  | rest => (none, rest)

/-- The sign of an exponent, if it has one of its own. -/
def exponentSign : List Char → Option Char × List Char
  | '-' :: after => (some '-', after)
  | '+' :: after => (some '+', after)
  | after => (none, after)

/-- An exponent, if there is one with digits; a mark without digits is left. -/
def exponentPart : List Char → Option Exponent × List Char
  | [] => (none, [])
  | mark :: after =>
    if mark = 'e' ∨ mark = 'E' then
      let (sign, signless) := exponentSign after
      let (digits, rest) := leadingDigits signless
      if digits.isEmpty then (none, mark :: after) else (some ⟨mark, sign, digits⟩, rest)
    else (none, mark :: after)

def numeral? (text : List Char) : Option (Numeral × List Char) := do
  let (negative, body) := signPart text
  let (whole, rest) ← wholePart? body
  let (fraction, rest) := fractionPart rest
  let (exponent, rest) := exponentPart rest
  return (⟨negative, whole, fraction, exponent⟩, rest)

/-- The value of a numeral: whole without point and exponent, a float with either. -/
def Numeral.value (numeral : Numeral) : Except Complaint Value :=
  if numeral.fraction.isNone && numeral.exponent.isNone then
    if numeral.whole.length > Decimal.digitLimit then .error (.longNumeral numeral.whole.length)
    else
      let size : Int := Text.digitsValue numeral.whole
      .ok (.int (if numeral.negative then -size else size))
  else
    .ok (.float (Decimal.floatOfParts numeral.negative numeral.whole (numeral.fraction.getD [])
      ((numeral.exponent.map Exponent.power).getD 0)))

def Numeral.written (numeral : Numeral) : String :=
  let front := if numeral.negative then '-' :: numeral.whole else numeral.whole
  let middle := (numeral.fraction.map ('.' :: ·)).getD []
  let back :=
    (numeral.exponent.map fun exponent =>
      exponent.mark :: (exponent.sign.toList ++ exponent.digits)).getD []
  String.ofList (front ++ middle ++ back)

/-- How numerals and the words of number type are taken. -/
structure Dialect where
  numeral : Numeral → Except Complaint Value
  /-- The words that stand for values, with the values. -/
  words : List (String × Value)

def plainWords : List (String × Value) :=
  [("null", .null), ("true", .bool true), ("false", .bool false)]

/-- The words for numbers that no numeral writes. -/
def numberWords : List (String × Value) :=
  [("NaN", .float (0.0 / 0.0)), ("Infinity", .float (1.0 / 0.0)),
   ("-Infinity", .float (-1.0 / 0.0))]

def Dialect.data : Dialect := ⟨Numeral.value, plainWords ++ numberWords⟩

def word? (words : List (String × Value)) (text : List Char) : Option (Value × List Char) :=
  words.findSome? fun (word, value) =>
    if word.toList.isPrefixOf text then some (value, text.drop word.length) else none

def scalar (dialect : Dialect) (text : List Char) : Except Stop (Value × List Char) :=
  match word? dialect.words text with
  | some found => .ok found
  | none =>
    match numeral? text with
    | none => .error ⟨.expectingValue, text.length⟩
    | some (numeral, rest) =>
      match dialect.numeral numeral with
      | .ok value => .ok (value, rest)
      | .error complaint => .error ⟨complaint, text.length⟩

mutual

def value (dialect : Dialect) :
    Nat → List Char → Except Stop (Value × List Char)
  | 0, text => .error ⟨.expectingValue, text.length⟩
  | fuel + 1, text =>
    match text with
    | '"' :: rest => do
      let (content, rest) ← textLiteral rest
      return (.text content, rest)
    | '[' :: rest =>
      match skipGap rest with
      | ']' :: after => .ok (.list [], after)
      | inside => do
        let (items, rest) ← items dialect fuel inside
        return (.list items, rest)
    | '\x7b' :: rest =>
      match skipGap rest with
      | '\x7d' :: after => .ok (.map [], after)
      | inside => do
        let (entries, rest) ← members dialect fuel [] inside
        return (.map entries, rest)
    | text => scalar dialect text

def items (dialect : Dialect) :
    Nat → List Char → Except Stop (List Value × List Char)
  | 0, text => .error ⟨.expectingValue, text.length⟩
  | fuel + 1, text => do
    let (first, rest) ← value dialect fuel text
    match skipGap rest with
    | ']' :: after => return ([first], after)
    | ',' :: after =>
      let (others, after) ← items dialect fuel (skipGap after)
      return (first :: others, after)
    | rest => throw ⟨.expectingComma, rest.length⟩

def members (dialect : Dialect) :
    Nat → List (Points × Value) → List Char → Except Stop (List (Points × Value) × List Char)
  | 0, _, text => .error ⟨.expectingName, text.length⟩
  | fuel + 1, earlier, text =>
    match text with
    | '"' :: rest => do
      let (name, rest) ← textLiteral rest
      match skipGap rest with
      | ':' :: after =>
        let (content, rest) ← value dialect fuel (skipGap after)
        let entries := OrderedMap.put name content earlier
        match skipGap rest with
        | '\x7d' :: after => return (entries, after)
        | ',' :: after => members dialect fuel entries (skipGap after)
        | rest => throw ⟨.expectingComma, rest.length⟩
      | rest => throw ⟨.expectingColon, rest.length⟩
    | rest => throw ⟨.expectingName, rest.length⟩

end

def readAs (dialect : Dialect) (text : List Char) : Except Stop Value := do
  if text.head? = some '\ufeff' then throw ⟨.byteOrderMark, text.length⟩
  let (found, rest) ← value dialect (text.length + 1) (skipGap text)
  match skipGap rest with
  | [] => return found
  | rest => throw ⟨.extraData, rest.length⟩

def read (text : List Char) : Except Stop Value := readAs .data text

def Complaint.words : Complaint → String
  | expectingValue => "Expecting value"
  | expectingName => "Expecting property name enclosed in double quotes"
  | expectingColon => "Expecting ':' delimiter"
  | expectingComma => "Expecting ',' delimiter"
  | extraData => "Extra data"
  | unterminatedText => "Unterminated string starting at"
  | controlCharacter => "Invalid control character at"
  | badEscape => "Invalid \\escape"
  | badUnicodeEscape => "Invalid \\uXXXX escape"
  | byteOrderMark => "Unexpected UTF-8 BOM (decode using utf-8-sig)"
  | longNumeral digits =>
    "Exceeds the limit (4300 digits) for integer string conversion: value has " ++
      toString digits ++ " digits; use sys.set_int_max_str_digits() to increase the limit"

/-- The message of a failure in a given text: the complaint with line, column and index. -/
def Stop.message (text : List Char) (stop : Stop) : String :=
  match stop.complaint with
  | .longNumeral _ => stop.complaint.words
  | complaint =>
    let index := text.length - stop.left
    let before := text.take index
    let line := before.count '\n' + 1
    let column := (before.reverse.takeWhile (· ≠ '\n')).length + 1
    complaint.words ++ ": line " ++ toString line ++ " column " ++ toString column ++
      " (char " ++ toString index ++ ")"

end CatalogDelta.Json
