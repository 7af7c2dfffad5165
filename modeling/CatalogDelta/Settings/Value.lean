import CatalogDelta.Decimal.Binary
import CatalogDelta.Settings.Form
import CatalogDelta.Settings.Number

/-!
# The usual validation

Values are read generously: numbers may be written as text, truth values as words or as one and zero,
and whole numbers as floats without a fraction. A text is always written as text. A form is filled
field by field, and issues of one field do not keep the fields after it from being looked at.
-/

namespace CatalogDelta

namespace Finding

variable {α β : Type}

def reject (complaint : String) : Finding α := .error [⟨[], complaint⟩]

/-- Put two findings together: issues of both stand one after the other. -/
def combine : Finding (α → β) → Finding α → Finding β
  | .ok make, .ok meaning => .ok (make meaning)
  | .ok _, .error issues => .error issues
  | .error issues, .ok _ => .error issues
  | .error issues, .error more => .error (issues ++ more)

/-- What was found out about a part of a value. -/
def under (part : String) (finding : Finding α) : Finding α :=
  finding.mapError (·.map fun issue => { issue with place := part :: issue.place })

/-- What is found out about each item of a list, the first of which has the given index. -/
def eachFrom (read : Data → Finding α) : Nat → List Data → Finding (List α)
  | _, [] => .ok []
  | index, item :: others =>
    combine ((under (toString index) (read item)).map List.cons) (eachFrom read (index + 1) others)

end Finding

open Finding

namespace Settings.Value

def text : Data → Finding String
  | .text content => .ok content
  | _ => reject "Input should be a valid string"

/-- What is said of a text that is no whole number. -/
def wholeComplaint : WholeError → String
  | .malformed => "Input should be a valid integer, unable to parse string as an integer"
  | .tooLong => "Unable to parse input string as an integer, exceeded maximum size"

/-- A float without a fraction, unless it is too large. -/
def wholeOfFloat? (value : Float) : Except String Int :=
  match Decimal.Reading.ofFloat value with
  | .finite negative size =>
    let whole : Int := if negative then -(size.floor : Int) else size.floor
    if value != Float.ofInt whole then
      .error "Input should be a valid integer, got a number with a fractional part"
    else if whole.natAbs < Nat.pow 2 63 then .ok whole
    else .error (wholeComplaint .tooLong)
  | _ => .error "Input should be a finite number"

def whole : Data → Finding Int
  | .bool value => .ok (if value then 1 else 0)
  | .int value => .ok value
  | .float value =>
    match wholeOfFloat? value with
    | .ok whole => .ok whole
    | .error complaint => reject complaint
  | .text content =>
    match wholeOfText content.toList with
    | .ok whole => .ok whole
    | .error problem => reject (wholeComplaint problem)
  | _ => reject "Input should be a valid integer"

/-- What is said of a value that is no number. -/
def noNumber : String := "Input should be a valid number"

def real : Data → Finding Float
  | .bool value => .ok (if value then 1 else 0)
  | .int value =>
    if (Float.ofInt value).isInf then reject noNumber else .ok (Float.ofInt value)
  | .float value => .ok value
  | .text content =>
    match realOfText? content.toList with
    | some value => .ok value
    | none => reject (noNumber ++ ", unable to parse string as a number")
  | _ => reject noNumber

def yesWords : List String := ["1", "t", "y", "on", "yes", "true"]

/-- The words for no, in small letters. -/
def noWords : List String := ["0", "f", "n", "off", "no", "false"]

/-- What is said of a value that is no truth value. -/
def noFlag : String := "Input should be a valid boolean"

/-- What is said of a value that could be a truth value and is none. -/
def unclearFlag : String := noFlag ++ ", unable to interpret input"

def flagOfWhole (value : Int) : Finding Bool :=
  if value = 1 then .ok true
  else if value = 0 then .ok false
  else reject unclearFlag

def flagOfWord (word : String) : Finding Bool :=
  if yesWords.contains word then .ok true
  else if noWords.contains word then .ok false
  else reject unclearFlag

def flag : Data → Finding Bool
  | .bool value => .ok value
  | .int value => flagOfWhole value
  | .float value =>
    match wholeOfFloat? value with
    | .ok whole => flagOfWhole whole
    | .error _ => reject noFlag
  | .text content => flagOfWord (content.map Char.toLower)
  | _ => reject noFlag

def texts : Data → Finding (List String)
  | .list items => eachFrom text 0 items
  | _ => reject "Input should be a valid list"

def options : Data → Finding (List (String × Data))
  | .map entries => .ok entries
  | _ => reject "Input should be a valid dictionary"

def wholeFrom (least : Int) (value : Data) : Finding Int := do
  let whole ← whole value
  if whole < least then
    reject ("Input should be greater than or equal to " ++
      String.ofList (Decimal.showInteger least))
  else return whole

/-- A number that is not negative. -/
def realFromZero (value : Data) : Finding Float := do
  let real ← real value
  if real < 0 then reject "Input should be greater than or equal to 0" else return real

/-- A number above zero. -/
def realAboveZero (value : Data) : Finding Float := do
  let real ← real value
  if real ≤ 0 then reject "Input should be greater than 0" else return real

/-- A text or a number, kept as it is; a truth value counts as a number. -/
def textOrNumber : Data → Finding Data
  | .bool value => .ok (.int (if value then 1 else 0))
  | .int value => .ok (.int value)
  | .float value => .ok (.float value)
  | .text content => .ok (.text content)
  | _ =>
    .error [⟨["str"], "Input should be a valid string"⟩,
      ⟨["int"], "Input should be a valid integer"⟩, ⟨["float"], noNumber⟩]

/-- What a value is taken as. -/
def read : {α : Type} → Declared α → Data → Finding α
  | _, .text, value => text value
  | _, .texts, value => texts value
  | _, .flag, value => flag value
  | _, .options, value => options value
  | _, .wholeFrom least, value => wholeFrom least value
  | _, .realFromZero, value => realFromZero value
  | _, .realAboveZero, value => realAboveZero value
  | _, .textOrNumber, value => textOrNumber value
  | _, .optional _, .null => .ok none
  | _, .optional declared, value => (read declared value).map some

end Settings.Value

/-! ## Filling forms -/

namespace Form

open Settings

/-- What a rule makes of a value: a wrong value is an issue. -/
def ruled {α β : Type} (rule : α → Except Fault β) (given : α) : Except Fault (Finding β) :=
  match rule given with
  | .ok value => .ok (.ok value)
  | .error fault =>
    if fault.kind.isA .value then .ok (reject ("Value error, " ++ fault.text)) else .error fault

def fillField {α β : Type} (name : String) (declared : Declared α) (rule : α → Except Fault β)
    (default : β) (entries : List (String × Data)) : Except Fault (Finding β) :=
  match OrderedMap.get? name entries with
  | none => .ok (.ok default)
  | some written =>
    match Value.read declared written with
    | .error issues => .ok (under name (.error issues))
    | .ok given => (ruled rule given).map (under name)

def fillInner {α : Type} (name title : String)
    (fill : List (String × Data) → Except Fault (Finding α)) (entries : List (String × Data)) :
    Except Fault (Finding (Option α)) :=
  match OrderedMap.get? name entries with
  | none | some .null => .ok (.ok none)
  | some (.map inside) => (fill inside).map fun found => under name (found.map some)
  | some _ =>
    .ok (under name (reject ("Input should be a valid dictionary or instance of " ++ title)))

/-- Fill a form field by field; what has no place in it is passed over. -/
def fill : {α : Type} → Form α → List (String × Data) → Except Fault (Finding α)
  | _, filled meaning, _ => .ok (.ok meaning)
  | _, field others name declared rule default, entries => do
    let make ← fill others entries
    return combine make (← fillField name declared rule default entries)
  | _, inner others name title form, entries => do
    let make ← fill others entries
    return combine make (← fillInner name title (fill form) entries)

end Form

/-- Values are read generously, and forms are filled field by field. -/
def Validation.usual : Validation := ⟨Settings.Value.read, Form.fill⟩

end CatalogDelta
