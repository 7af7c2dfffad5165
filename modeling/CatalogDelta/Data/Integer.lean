import CatalogDelta.Fault
import CatalogDelta.Decimal.Numeral

/-!
# Data as whole numbers

Whole numbers stand for themselves, truth values for one and zero, floats are cut toward zero and
texts are read as numerals.
-/

namespace CatalogDelta

/-- What is said of a text that is no numeral; of its quotation two hundred characters are shown. -/
def Decimal.malformedText (quoted : String) : String :=
  "invalid literal for int() with base 10: " ++ String.ofList (quoted.toList.take 200)

/-- The message about a numeral that cannot be read. -/
def Decimal.NumeralError.message (text : String) : Decimal.NumeralError → String
  | .malformed => malformedText (Text.quoted text)
  | .tooLong digits =>
    "Exceeds the limit (4300 digits) for integer string conversion: value has " ++
      toString digits ++ " digits; use sys.set_int_max_str_digits() to increase the limit"

namespace Data

def integerOfText (text : String) : Except Fault Int :=
  match Decimal.parseInteger text.toList with
  | .ok value => .ok value
  | .error problem => .error (.invalidValue (problem.message text))

/-- What is said of a whole number that has too many digits to be written. -/
def tooLongToWrite : Fault :=
  .invalidValue ("Exceeds the limit (4300 digits) for integer string conversion; use " ++
    "sys.set_int_max_str_digits() to increase the limit")

/-- The numeral of a whole number, which may have no more digits than are read. -/
def numeralOf (value : Int) : Except Fault String :=
  if Decimal.digitLimit < (Decimal.digitsOf value.natAbs).length then .error tooLongToWrite
  else .ok (String.ofList (Decimal.showInteger value))

theorem numeralOf_eq_ok_iff {value : Int} {text : String} :
    numeralOf value = .ok text ↔
      (Decimal.digitsOf value.natAbs).length ≤ Decimal.digitLimit ∧
        String.ofList (Decimal.showInteger value) = text := by
  unfold numeralOf
  split
  · rename_i long
    simp only [reduceCtorEq, Nat.not_le.mpr long, false_and]
  · rename_i short
    simp only [Except.ok.injEq, Nat.not_lt.mp short, true_and]

mutual

/-- No whole number in the value has too many digits to be written. -/
def isWritable : Data → Bool
  | int value => (Decimal.digitsOf value.natAbs).length ≤ Decimal.digitLimit
  | list items => areWritable items
  | map entries => entriesWritable entries
  | _ => true

def areWritable : List Data → Bool
  | [] => true
  | item :: items => isWritable item && areWritable items

def entriesWritable : List (String × Data) → Bool
  | [] => true
  | (_, value) :: entries => isWritable value && entriesWritable entries

end

/-- The text that shows a value, unless a whole number in it is too long. -/
def written (value : Data) : Except Fault String :=
  if value.isWritable then .ok value.shown else .error tooLongToWrite

/-- Cut a float to a whole number. -/
def integerOfFloat (value : Float) : Except Fault Int :=
  match Decimal.Reading.ofFloat value with
  | .notANumber => .error (.invalidValue "cannot convert float NaN to integer")
  | .infinite _ => .error (.outOfRange "cannot convert float infinity to integer")
  | .finite negative size => .ok (if negative then -(size.floor : Int) else size.floor)

def toInteger : Data → Except Fault Int
  | int value => .ok value
  | bool value => .ok (if value then 1 else 0)
  | float value => integerOfFloat value
  | text value => integerOfText value
  | other =>
    .error (.wrongType ("int() argument must be a string, a bytes-like object or a real number, " ++
      "not " ++ Text.quoted other.typeName))

/-- The number that a value stands for as a float: numbers and truth values only. -/
def toFloat? : Data → Option Float
  | int value => some (Float.ofInt value)
  | bool value => some (if value then 1 else 0)
  | float value => some value
  | _ => none

end Data
end CatalogDelta
