import CatalogDelta.Data.Basic
import CatalogDelta.Decimal.Numeral
import CatalogDelta.Decimal.Layout
import CatalogDelta.Text.Quoted

/-!
# Data in messages

`literal` writes a value so that its type shows; `shown` writes a text, a moment or a span plainly
and everything else as `literal` does.
-/

namespace CatalogDelta.Data

mutual

def literal : Data → String
  | null => "None"
  | bool value => if value then "True" else "False"
  | int value => String.ofList (Decimal.showInteger value)
  | float value => Decimal.Style.plain.render value
  | text value => Text.quoted value
  | list items => "[" ++ literalItems items ++ "]"
  | map entries => "\x7b" ++ literalEntries entries ++ "\x7d"
  | moment value => value.literal
  | span value => value.literal

def literalItems : List Data → String
  | [] => ""
  | [item] => literal item
  | item :: items => literal item ++ ", " ++ literalItems items

def literalEntries : List (String × Data) → String
  | [] => ""
  | [(key, value)] => Text.quoted key ++ ": " ++ literal value
  | (key, value) :: entries =>
    Text.quoted key ++ ": " ++ literal value ++ ", " ++ literalEntries entries

end

def shown : Data → String
  | text value => value
  | moment value => value.text
  | span value => value.text
  | value => literal value

def literalTexts (texts : List String) : String := literal (list (texts.map text))

end CatalogDelta.Data
