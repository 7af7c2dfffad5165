import CatalogDelta.Pattern.Regex.Reader

/-!
# Escapes

An escape names a character, a kind of character, a place, or a group. Which letters mean what
differs a little inside brackets.
-/

namespace CatalogDelta.Regex.Escape

open Reader

def isOctal (c : Char) : Bool := '0' ≤ c && c ≤ '7'

def isHex (c : Char) : Bool := c.isDigit || ('a' ≤ c && c ≤ 'f') || ('A' ≤ c && c ≤ 'F')

def valueIn (base : Nat) (digits : List Char) : Nat :=
  digits.foldl (fun total c =>
    let value :=
      if c.isDigit then c.toNat - 0x30
      else if 'a' ≤ c then c.toNat - 0x57
      else c.toNat - 0x37
    total * base + value) 0

def refuseAs {α : Type} (message : String) (escape : List Char) : Reader α :=
  refuse (message ++ String.ofList escape) escape.length

def hexCode (letter : Char) (count : Nat) : Reader Nat := do
  let digits ← takeWhile isHex count
  let escape := ['\\', letter] ++ digits
  if digits.length < count then refuseAs "incomplete escape " escape
  let value := valueIn 16 digits
  if 0x10FFFF < value then refuseAs "bad escape " escape
  return value

/-- A character by its name; no names are known. -/
def namedCode : Reader Nat := do
  if !(← takeIf '\x7b') then refuse "missing \x7b"
  let found ← name '\x7d' "character name"
  refuse ("undefined character name " ++ Text.quoted (String.ofList found)) (found.length + 4)

def control? (letter : Char) : Option Nat :=
  match letter with
  | 'a' => some 7
  | 'f' => some 12
  | 'n' => some 10
  | 'r' => some 13
  | 't' => some 9
  | 'v' => some 11
  | '\\' => some 92
  | _ => none

def kind? (letter : Char) : Option Member :=
  match letter with
  | 'd' => some (.kind false .digit)
  | 'D' => some (.kind true .digit)
  | 's' => some (.kind false .blank)
  | 'S' => some (.kind true .blank)
  | 'w' => some (.kind false .word)
  | 'W' => some (.kind true .word)
  | _ => none

def place? (letter : Char) : Option Place :=
  match letter with
  | 'A' => some .textStart
  | 'Z' => some .textEnd
  | 'b' => some .wordEdge
  | 'B' => some .noWordEdge
  | _ => none

/-- An octal escape may not exceed one byte. -/
def octalCode (digits : List Char) : Reader Nat := do
  let escape := '\\' :: digits
  if 0xFF < valueIn 8 digits then
    refuse ("octal escape value " ++ String.ofList escape ++ " outside of range 0-0o377")
      escape.length
  return valueIn 8 digits

/-- A character by a letter and digits, if the letter is one of those. -/
def coded? (letter : Char) : Reader (Option Nat) := do
  if letter = 'x' then return some (← hexCode letter 2)
  else if letter = 'u' then return some (← hexCode letter 4)
  else if letter = 'U' then return some (← hexCode letter 8)
  else if letter = 'N' then return some (← namedCode)
  else return none

/-- A character that needs no escape: anything but an ASCII letter. -/
def selfCode (letter : Char) : Reader Nat := do
  if letter.isAlpha then refuseAs "bad escape " ['\\', letter]
  return letter.toNat

def member (letter : Char) : Reader Member := do
  if letter = 'b' then return .code 8
  if let some code := control? letter then return .code code
  if let some kind := kind? letter then return kind
  if let some code ← coded? letter then return .code code
  if isOctal letter then return .code (← octalCode (letter :: (← takeWhile isOctal 2)))
  if letter.isDigit then refuseAs "bad escape " ['\\', letter]
  return .code (← selfCode letter)

def reference (digits : List Char) : Reader Node := do
  let index := valueIn 10 digits
  if index < (← groupCount) then
    match ← closedWidth? index with
    | none => refuse "cannot refer to an open group" (digits.length + 1)
    | some width =>
      checkBehind index
      return .recall index width
  else refuse ("invalid group reference " ++ toString index) digits.length

/-- An escape that begins with a digit other than zero: a reference, or three octal digits. -/
def numbered (first : Char) : Reader Node := do
  match ← takeWhile Char.isDigit 1 with
  | [second] =>
    if isOctal first && isOctal second then
      match ← takeWhile isOctal 1 with
      | [third] => return .char (← octalCode [first, second, third])
      | _ => reference [first, second]
    else reference [first, second]
  | _ => reference [first]

def node (letter : Char) : Reader Node := do
  if let some place := place? letter then return .place place
  if let some kind := kind? letter then return .set false [kind]
  if let some code := control? letter then return .char code
  if let some code ← coded? letter then return .char code
  if letter = '0' then return .char (valueIn 8 (← takeWhile isOctal 2))
  if letter.isDigit then numbered letter
  else return .char (← selfCode letter)

end CatalogDelta.Regex.Escape
