import CatalogDelta.Json.Value

/-!
# Writing JSON

Everything outside printable ASCII is escaped, in surrogate pairs where needed.
-/

namespace CatalogDelta.Json

def unitEscape (unit : Nat) : List Char := ['\\', 'u'] ++ Text.hexField 4 unit

/-- A code point as it is written between quotation marks. -/
def escaped (point : CodePoint) : List Char :=
  if point = .ofChar '"' then ['\\', '"']
  else if point = .ofChar '\\' then ['\\', '\\']
  else if point = .ofChar '\n' then ['\\', 'n']
  else if point = .ofChar '\r' then ['\\', 'r']
  else if point = .ofChar '\t' then ['\\', 't']
  else if point = .ofChar '\x08' then ['\\', 'b']
  else if point = .ofChar '\x0c' then ['\\', 'f']
  else if 0x20 ≤ point.val ∧ point.val < 0x7F then [Char.ofNat point.val]
  else if point.val < 0x10000 then unitEscape point.val
  else
    unitEscape (0xD800 + (point.val - 0x10000) / 0x400) ++
      unitEscape (0xDC00 + (point.val - 0x10000) % 0x400)

def textLiteralOf (text : Points) : String :=
  String.ofList ('"' :: text.flatMap escaped ++ ['"'])

/-- The text of a value that has no parts. -/
def scalarText : Value → String
  | .null => "null"
  | .bool content => if content then "true" else "false"
  | .int content => String.ofList (Decimal.showInteger content)
  | .float content => Decimal.Style.document.render content
  | .text content => textLiteralOf content
  | .list _ => "[]"
  | .map _ => "\x7b\x7d"

mutual

def compact : Value → String
  | .list content => "[" ++ compactItems content ++ "]"
  | .map content => "\x7b" ++ compactMembers content ++ "\x7d"
  | other => scalarText other

def compactItems : List Value → String
  | [] => ""
  | [item] => compact item
  | item :: others => compact item ++ ", " ++ compactItems others

def compactMembers : List (Points × Value) → String
  | [] => ""
  | [(name, content)] => textLiteralOf name ++ ": " ++ compact content
  | (name, content) :: others =>
    textLiteralOf name ++ ": " ++ compact content ++ ", " ++ compactMembers others

end

def newLine (level : Nat) : String := "\n" ++ "".pushn ' ' (2 * level)

mutual

def indented (level : Nat) : Value → String
  | .list [] => "[]"
  | .list content => "[" ++ indentedItems (level + 1) content ++ newLine level ++ "]"
  | .map [] => "\x7b\x7d"
  | .map content => "\x7b" ++ indentedMembers (level + 1) content ++ newLine level ++ "\x7d"
  | other => scalarText other

def indentedItems (level : Nat) : List Value → String
  | [] => ""
  | [item] => newLine level ++ indented level item
  | item :: others => newLine level ++ indented level item ++ "," ++ indentedItems level others

def indentedMembers (level : Nat) : List (Points × Value) → String
  | [] => ""
  | [(name, content)] => newLine level ++ textLiteralOf name ++ ": " ++ indented level content
  | (name, content) :: others =>
    newLine level ++ textLiteralOf name ++ ": " ++ indented level content ++ "," ++
      indentedMembers level others

end

/-- Members in the order of their names. -/
def sortedMembers (entries : List (String × Data)) : List (String × Data) :=
  entries.mergeSort fun first second => !(second.1 < first.1)

end CatalogDelta.Json
