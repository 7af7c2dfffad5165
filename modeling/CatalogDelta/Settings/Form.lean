import CatalogDelta.Fault

/-!
# Forms and their validation

A form declares fields: what each is called, what it takes, the rule that checks what was taken, and
the default of a field that nobody gives. Reading values and filling forms is the work of a
validation, which this library is given from outside. `Validation.Lawful` lists what it relies on:
what is taken has the declared type and keeps to its bounds, the rules are applied, a rule that finds
a value wrong makes an issue, and any other fault of a rule comes out.
-/

namespace CatalogDelta

/-- Something that is wrong with a value: where it stands, and what is wrong. -/
structure Issue where
  place : List String
  complaint : String
  deriving Repr, DecidableEq

def Issue.text (issue : Issue) : String :=
  (if issue.place.isEmpty then "<root>" else ".".intercalate issue.place) ++ ": " ++
    issue.complaint

/-- What was found out about a value: its meaning, or everything that is wrong with it. -/
abbrev Finding (α : Type) := Except (List Issue) α

/-- What a field takes, by the type of what is taken. -/
inductive Declared : Type → Type 1
  | text : Declared String
  | texts : Declared (List String)
  | flag : Declared Bool
  | options : Declared (List (String × Data))
  /-- A whole number that is at least the given one. -/
  | wholeFrom (least : Int) : Declared Int
  /-- A number that is not negative. -/
  | realFromZero : Declared Float
  /-- A number above zero. -/
  | realAboveZero : Declared Float
  | textOrNumber : Declared Data
  | optional {α : Type} (declared : Declared α) : Declared (Option α)

/-- A form, by the type of what it means once it is filled. -/
inductive Form : Type → Type 1
  | filled {α : Type} (meaning : α) : Form α
  /-- One more field, with the rule that checks what was taken. -/
  | field {α β γ : Type} (others : Form (β → γ)) (name : String) (declared : Declared α)
    (rule : α → Except Fault β) (default : β) : Form γ
  /-- One more field, which takes another form or nothing. -/
  | inner {α γ : Type} (others : Form (Option α → γ)) (name title : String) (form : Form α) : Form γ

/-- One more field that no rule checks. -/
def Form.plain {α γ : Type} (others : Form (α → γ)) (name : String) (declared : Declared α)
    (default : α) : Form γ :=
  others.field name declared .ok default

/-- How values are read and forms are filled. -/
structure Validation where
  /-- What a value is taken as. -/
  read : {α : Type} → Declared α → Data → Finding α
  /-- What a form means that is filled from entries. -/
  fill : {α : Type} → Form α → List (String × Data) → Except Fault (Finding α)

/-! ## What is expected of a validation -/

/-- A value is a text or a number. -/
def Data.IsTextOrNumber : Data → Prop
  | .text _ | .int _ | .float _ => True
  | _ => False

/-- What is taken keeps to the bounds of what is declared. -/
def Declared.Keeps : {α : Type} → Declared α → α → Prop
  | _, .wholeFrom least, whole => least ≤ whole
  | _, .realFromZero, real => ¬ real < 0
  | _, .realAboveZero, real => ¬ real ≤ 0
  | _, .textOrNumber, value => value.IsTextOrNumber
  | _, .optional declared, value => ∀ given ∈ value, declared.Keeps given
  | _, _, _ => True

namespace Form

/-- What a field means that takes another form: nothing if it is not there or null, or else what the
form means. -/
def InnerMeans {α : Type} (means : List (String × Data) → α → Prop) (written : Option Data)
    (value : Option α) : Prop :=
  match written with
  | none | some .null => value = none
  | some written => ∃ inside given, written = .map inside ∧ means inside given ∧ value = some given

section Given

variable (read : {α : Type} → Declared α → Data → Finding α)

/-- What a field means: its default if it is not there, or else what its rule makes of what is
taken. -/
def FieldMeans {α β : Type} (declared : Declared α) (rule : α → Except Fault β) (default : β)
    (written : Option Data) (value : β) : Prop :=
  match written with
  | none => value = default
  | some written => ∃ given, read declared written = .ok given ∧ rule given = .ok value

/-- What a form means whose fields all mean something. -/
def Means : {α : Type} → Form α → List (String × Data) → α → Prop
  | _, filled meaning, _, result => result = meaning
  | _, field others name declared rule default, entries, result =>
    ∃ make value, Means others entries make ∧
      FieldMeans read declared rule default (OrderedMap.get? name entries) value ∧
      result = make value
  | _, inner others name _ form, entries, result =>
    ∃ make value, Means others entries make ∧
      InnerMeans (Means form) (OrderedMap.get? name entries) value ∧ result = make value

/-- The rule of a field fails, and not because the value is wrong. -/
def FieldStops {α β : Type} (declared : Declared α) (rule : α → Except Fault β)
    (written : Option Data) (fault : Fault) : Prop :=
  ∃ value given, written = some value ∧ read declared value = .ok given ∧
    rule given = .error fault ∧ fault.kind.isA .value = false

/-- The first field whose rule fails, and not because the value is wrong, fails with this fault. -/
def Stops : {α : Type} → Form α → List (String × Data) → Fault → Prop
  | _, filled _, _, _ => False
  | _, field others name declared rule _, entries, fault =>
    Stops others entries fault ∨ (∀ other, ¬Stops others entries other) ∧
      FieldStops read declared rule (OrderedMap.get? name entries) fault
  | _, inner others name _ form, entries, fault =>
    Stops others entries fault ∨ (∀ other, ¬Stops others entries other) ∧
      ∃ inside, OrderedMap.get? name entries = some (.map inside) ∧ Stops form inside fault

end Given

end Form

/-- A value is taken by a field for texts and numbers: it stays as it is, and a truth value counts as
one or zero. -/
inductive TakenAs : Data → Data → Prop
  | text (content : String) : TakenAs (.text content) (.text content)
  | int (value : Int) : TakenAs (.int value) (.int value)
  | float (value : Float) : TakenAs (.float value) (.float value)
  | bool (value : Bool) : TakenAs (.bool value) (.int (if value then 1 else 0))

/-- What this library relies on in a validation. -/
structure Validation.Lawful (validation : Validation) : Prop where
  /-- What is taken is of the declared type and within its bounds. -/
  keeps : ∀ {α : Type} {declared : Declared α} {value : Data} {given : α},
    validation.read declared value = .ok given → declared.Keeps given
  /-- A text or a number is taken as it is. -/
  textOrNumber : ∀ {value given : Data},
    validation.read .textOrNumber value = .ok given ↔ TakenAs value given
  /-- Nothing may be given for what is optional, or else what is declared. -/
  optional : ∀ {α : Type} {declared : Declared α} {value : Data} {given : Option α},
    validation.read (.optional declared) value = .ok given ↔
      match value with
      | .null => given = none
      | value => ∃ present, validation.read declared value = .ok present ∧ given = some present
  /-- The rules are applied to what is taken, and a form is put together from what they accept. -/
  means : ∀ {α : Type} {form : Form α} {entries : List (String × Data)} {meaning : α},
    validation.fill form entries = .ok (.ok meaning) → form.Means validation.read entries meaning
  /-- A rule that finds its value wrong makes an issue, and any other fault of a rule comes out. -/
  stops : ∀ {α : Type} {form : Form α} {entries : List (String × Data)} {fault : Fault},
    validation.fill form entries = .error fault ↔ form.Stops validation.read entries fault

/-! ## Reports on issues -/

/-- The report on what is wrong with the entries of a form. -/
def issuesFault (issues : List Issue) : Fault :=
  .configuration "Invalid scan configuration" none .null none
    (issues.zipIdx.map fun (issue, index) => ("issue_" ++ toString (index + 1), .text issue.text))

/-- The meaning of a form that is filled from entries, or a report on the issues. -/
def Validation.settle {α : Type} (validation : Validation) (form : Form α)
    (entries : List (String × Data)) : Except Fault α := do
  match ← validation.fill form entries with
  | .ok meaning => return meaning
  | .error issues => throw (issuesFault issues)

end CatalogDelta
