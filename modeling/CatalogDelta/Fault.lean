import CatalogDelta.Data.Display

/-!
# Failures

A fault is either a report, which carries the dataset it concerns, details and a suggestion, or a
plain failure of some kind: a misuse found by this library, or a failure of a collaborator such as a
catalog client or a storage system. Kinds form a tree, and a handler names the kinds it takes.
-/

namespace CatalogDelta

/-- The kinds of failure. -/
inductive FaultKind where
  | any
  | system | timeout | connection | connectionReset | connectionRefused | permission
  | fileMissing | isDirectory | notDirectory | fileThere
  | value | undecodable
  | lookup | key | index
  | wrongType | member
  | overflow
  | missingDriver
  | runtime
  | report | updateTimeNotFound | listing | connectionFailure | configuration
  | other (name : String)
  deriving Repr, DecidableEq

namespace FaultKind

def name : FaultKind → String
  | any => "Exception"
  | system => "OSError"
  | timeout => "TimeoutError"
  | connection => "ConnectionError"
  | connectionReset => "ConnectionResetError"
  | connectionRefused => "ConnectionRefusedError"
  | permission => "PermissionError"
  | fileMissing => "FileNotFoundError"
  | isDirectory => "IsADirectoryError"
  | notDirectory => "NotADirectoryError"
  | fileThere => "FileExistsError"
  | value => "ValueError"
  | undecodable => "UnicodeDecodeError"
  | lookup => "LookupError"
  | key => "KeyError"
  | index => "IndexError"
  | wrongType => "TypeError"
  | member => "AttributeError"
  | overflow => "OverflowError"
  | missingDriver => "ImportError"
  | runtime => "RuntimeError"
  | report => "ScanError"
  | updateTimeNotFound => "UpdateTimeNotFound"
  | listing => "CatalogListingFailure"
  | connectionFailure => "CatalogConnectionFailure"
  | configuration => "ConfigurationError"
  | other name => name

def named : List FaultKind :=
  [any, system, timeout, connection, connectionReset, connectionRefused, permission, fileMissing,
   isDirectory, notDirectory, fileThere, value, undecodable, lookup, key, index, wrongType, member,
   overflow, missingDriver, runtime, report, updateTimeNotFound, listing, connectionFailure,
   configuration]

def ofName (word : String) : FaultKind := (named.find? (·.name = word)).getD (other word)

def parent : FaultKind → Option FaultKind
  | any => none
  | timeout | connection | permission | fileMissing | isDirectory | notDirectory | fileThere =>
    some system
  | connectionReset | connectionRefused => some connection
  | undecodable => some value
  | key | index => some lookup
  | updateTimeNotFound | listing | connectionFailure | configuration => some report
  | _ => some any

/-- A kind with the kinds of which it is a special case; no chain is longer than four. -/
def lineage (kind : FaultKind) : List FaultKind :=
  go 3 kind
where
  /-- The chain of at most so many further kinds. -/
  go : Nat → FaultKind → List FaultKind
    | 0, kind => [kind]
    | left + 1, kind => kind :: (kind.parent.map (go left)).getD []

/-- The kind is the other one or a special case of it. -/
def isA (kind other : FaultKind) : Bool := kind.lineage.contains other

end FaultKind

/-- A failure with the dataset it concerns, details and a suggestion. -/
structure Report where
  kind : FaultKind
  message : String
  database : Option String := none
  table : Option String := none
  details : OrderedMap String Data := []
  suggestion : Option String := none
  /-- The text of the failure behind this one. -/
  cause : Option String := none

/-- What went wrong. -/
inductive Fault where
  | report (content : Report)
  /-- A misuse found by this library. -/
  | misuse (kind : FaultKind) (message : String)
  /-- A failure of a collaborator. -/
  | foreign (kind : FaultKind) (message : String)

namespace Report

/-- An optional text, left out when empty. -/
def nonEmpty (value : Option String) : Option String := value.filter (!·.isEmpty)

/-- The line that names the dataset, if the report concerns one. -/
def addressLine (report : Report) : List String :=
  let database := nonEmpty report.database
  let table := nonEmpty report.table
  if database.isNone && table.isNone then []
  else ["[" ++ database.getD "?" ++ "@" ++ table.getD "?" ++ "]"]

def text (report : Report) : String :=
  let details :=
    if report.details.isEmpty then []
    else "\nDetails:" :: report.details.map fun (key, value) => "  " ++ key ++ ": " ++ value.shown
  let suggestion := (nonEmpty report.suggestion).toList.map ("\nSuggestion: " ++ ·)
  "\n".intercalate (report.addressLine ++ [report.message] ++ details ++ suggestion)

def toData (report : Report) : Data :=
  .map [("error_type", .text report.kind.name), ("message", .text report.message),
    ("database", .ofText? report.database), ("table", .ofText? report.table),
    ("details", .map report.details), ("suggestion", .ofText? report.suggestion)]

def withDetail (report : Report) (key : String) (value : Data) : Report :=
  { report with details := OrderedMap.put key value report.details }

def forEntity (report : Report) (entity : Option String) : Report :=
  match nonEmpty entity with
  | some entity => report.withDetail "entity" (.text entity)
  | none => report

/-- Name the field that a report concerns, and show its value unless it is null. -/
def forField (report : Report) (field : Option String) (value : Data) : Report :=
  let named :=
    match nonEmpty field with
    | some field => report.withDetail "field" (.text field)
    | none => report
  match value with
  | .null => named
  | value => named.withDetail "value" (.text value.shown)

/-- What to check when no client can be had. -/
def connectionAdvice : String :=
  "Check that the metastore is reachable and that the client pool is large enough for the " ++
    "configured max_workers."

/-- Suggest what to check when no client can be had, unless something else is suggested. -/
def withAdvice (report : Report) : Report :=
  { report with suggestion := some ((nonEmpty report.suggestion).getD connectionAdvice) }

end Report

namespace Fault

def kind : Fault → FaultKind
  | report content => content.kind
  | misuse kind _ | foreign kind _ => kind

/-- The text of a plain failure: a missing key is written between quotation marks. -/
def plainText (kind : FaultKind) (message : String) : String :=
  if kind = .key then Text.quoted message else message

def text : Fault → String
  | report content => content.text
  | misuse kind message | foreign kind message => plainText kind message

/-- The message alone, without address, details and suggestion. -/
def brief : Fault → String
  | report content => content.message
  | fault => fault.text

def described : Fault → String
  | report content => content.message ++ ((content.cause.map (": " ++ ·)).getD "")
  | fault => fault.text

def withCause (report : Report) (cause : Option Fault) : Report :=
  match cause with
  | none => report
  | some cause =>
    { (report.withDetail "cause" (.text cause.text)).withDetail "cause_type"
        (.text cause.kind.name) with
      cause := some cause.text }

/-- An entity has no usable update time. -/
def updateTimeNotFound (message : String) (entity : Option String)
    (details : OrderedMap String Data := []) (cause : Option Fault := none) : Fault :=
  let base : Report := { kind := .updateTimeNotFound, message, details }
  .report (withCause (base.forEntity entity) cause)

/-- A part of the catalog cannot be listed. -/
def listingFailure (message : String) (database table : Option String)
    (details : OrderedMap String Data := []) (cause : Option Fault := none) : Fault :=
  .report (withCause { kind := .listing, message, database, table, details } cause)

/-- No catalog client can be had. -/
def connectionFailure (message : String) (details : OrderedMap String Data := [])
    (cause : Option Fault := none) : Fault :=
  let base : Report := { kind := .connectionFailure, message, details }
  .report (withCause base.withAdvice cause)

/-- The configuration is wrong: which field holds which value. -/
def configuration (message : String) (field : Option String := none) (value : Data := .null)
    (suggestion : Option String := none) (details : OrderedMap String Data := []) : Fault :=
  let base : Report := { kind := .configuration, message, details, suggestion }
  .report (base.forField field value)

/-- A value of the right type that means nothing. -/
def invalidValue (message : String) : Fault := .misuse .value message

/-- A key that is not there. -/
def missingKey (key : String) : Fault := .misuse .key key

/-- An operation that the type of a value does not have. -/
def wrongType (message : String) : Fault := .misuse .wrongType message

/-- A member that values of some type do not have. -/
def memberless (typeName name : String) : Fault :=
  .misuse .member (Text.quoted typeName ++ " object has no attribute " ++ Text.quoted name)

/-- A member that the type of a value does not have. -/
def noMember (value : Data) (name : String) : Fault := memberless value.typeName name

def outOfRange (message : String) : Fault := .misuse .overflow message

/-- A failure of some kind that a collaborator raises with nothing but a message. -/
def raised (kind : FaultKind) (message : String) : Fault :=
  if kind = .connectionFailure then connectionFailure message
  else if kind.isA .report then .report { kind, message }
  else .foreign kind message

end Fault

/-! ## Kinds of reports -/

theorem Fault.kind_configuration (message : String) (field : Option String) (value : Data)
    (suggestion : Option String) (details : OrderedMap String Data) :
    (configuration message field value suggestion details).kind = .configuration := by
  cases value <;> cases named : Report.nonEmpty field <;>
    simp only [configuration, Report.forField, named] <;> rfl

theorem Fault.kind_connectionFailure (message : String) (details : OrderedMap String Data)
    (cause : Option Fault) :
    (connectionFailure message details cause).kind = .connectionFailure := by
  cases cause <;> rfl

theorem Fault.kind_updateTimeNotFound (message : String) (entity : Option String)
    (details : OrderedMap String Data) (cause : Option Fault) :
    (updateTimeNotFound message entity details cause).kind = .updateTimeNotFound := by
  cases cause <;> cases named : Report.nonEmpty entity <;>
    simp only [updateTimeNotFound, Report.forEntity, named] <;> rfl

theorem Fault.isA_listingFailure (message : String) (database table : Option String)
    (details : OrderedMap String Data) (cause : Option Fault) :
    (listingFailure message database table details cause).kind.isA .listing = true := by
  cases cause <;> rfl

namespace FaultKind

/-- No other kind is a special case of a wrong configuration. -/
theorem isA_configuration_iff {kind : FaultKind} :
    kind.isA .configuration = true ↔ kind = .configuration := by
  cases kind <;> simp [isA, lineage, lineage.go, parent]

end FaultKind

end CatalogDelta
