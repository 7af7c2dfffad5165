import CatalogDelta.Journal.Template
import CatalogDelta.Journal.Entry
import CatalogDelta.Json.Writer

/-!
# Entries as lines

An entry is written as one line of text or as one JSON object. Either begins with the time of the
entry; what comes after it is the body of the line.
-/

namespace CatalogDelta

/-- An entry as it is handed to a layout: its parts may have been overwritten by loosely typed
ones. -/
structure LogRecord where
  /-- Seconds since the start of 1970. -/
  created : Data
  level : Data
  author : Data
  template : Data
  arguments : Except Data (List Data)
  failure : Option Fault := none
  context : List (String × Data) := []

namespace LogRecord

def ownNames : List String :=
  ["name", "msg", "args", "levelname", "levelno", "pathname", "filename", "module", "exc_info",
   "exc_text", "stack_info", "lineno", "funcName", "created", "msecs", "relativeCreated", "thread",
   "threadName", "processName", "process"]

/-- Names that a context may not use. -/
def reservedNames : List String := ownNames ++ ["message", "asctime"]

def overwrite (record : LogRecord) (name : String) (value : Data) : LogRecord :=
  if name = "name" then { record with author := value }
  else if name = "levelname" then { record with level := value }
  else if name = "msg" then { record with template := value }
  else if name = "args" then { record with arguments := .error value }
  else if name = "created" then { record with created := value }
  else if name = "exc_info" then
    if value.isTruthy then record else { record with failure := none }
  else if reservedNames.contains name then record
  else { record with context := OrderedMap.put name value record.context }

def message (record : LogRecord) : Except Fault String :=
  let template := record.template.shown
  match record.arguments with
  | .ok arguments => Template.fillCall template arguments
  | .error value =>
    if value.isTruthy then Template.fill template (.ofValue value) else .ok template

end LogRecord

namespace Layout

/-- Seconds beyond this have no calendar at all. -/
def farthestSecond : Int := 67768036191676799

/-- Microseconds since the start of 1970 for a time in seconds; the fraction of a float is rounded
to the nearest microsecond, a half to the even one. -/
def microsOf : Data → Except Fault Int
  | .int seconds => .ok (seconds * 1000000)
  | .bool value => .ok (if value then 1000000 else 0)
  | .float seconds =>
    match Span.splitFloat seconds with
    | .error .notANumber => .error (.invalidValue "Invalid value NaN (not a number)")
    | .error .outOfRange => .error (.outOfRange "timestamp out of range")
    | .ok (whole, fraction) =>
      match Decimal.Reading.ofFloat (fraction * 1000000) with
      | .finite negative size =>
        let (up, down) := size.fraction
        let rounded : Int := Decimal.roundHalfEven up down
        .ok (whole * 1000000 + (if negative then -rounded else rounded))
      | _ => .ok (whole * 1000000)
  | other => .error (.wrongType (Text.quoted other.typeName ++ " object is no number"))

def moment (created : Data) : Except Fault Moment := do
  let micros ← microsOf created
  let seconds := micros.fdiv 1000000
  if 9223372036854775807 < seconds || seconds < -9223372036854775808 then
    throw (.outOfRange "timestamp out of range")
  if farthestSecond < seconds || seconds < -farthestSecond then
    throw (.misuse .system "value too large")
  let moment := Moment.ofEpochMicros micros
  if moment.year < 1 || 9999 < moment.year then
    throw (.invalidValue ("year " ++ toString moment.year ++ " is out of range"))
  return moment

/-- The kind of a failure as it stands in a line; kinds of this library carry their place. -/
def kindText (kind : FaultKind) : String :=
  if kind.isA .report then Author.part "errors." ++ kind.name else kind.name

def failureText (fault : Fault) : String :=
  let text := fault.text
  if text.isEmpty then kindText fault.kind else kindText fault.kind ++ ": " ++ text

def members (exclude : List String) (record : LogRecord) :
    Except Fault (List (String × Data)) := do
  let message ← record.message
  let failure := record.failure.toList.map fun fault => ("exception", Data.text (failureText fault))
  let context := record.context.filter fun (name, _) => !exclude.contains name
  let extra := if context.isEmpty then [] else [("extra", Data.map context)]
  return [("level", record.level), ("logger", record.author), ("message", .text message)] ++
    failure ++ extra

def jsonLine (exclude : List String) (record : LogRecord) : Except Fault String := do
  let time ← moment record.created
  let fields := ("timestamp", .text time.stamp) :: (← members exclude record)
  return Json.compact (.ofData (.map fields))

def jsonBody (entry : Entry) : String :=
  let context := if entry.context.isEmpty then [] else [("extra", Data.map entry.context)]
  let members := [("level", Data.text (Level.word entry.level)), ("logger", .text entry.author),
    ("message", .text entry.message)] ++ context
  Json.compactMembers (Json.Value.ofEntries members) ++ "\x7d"

/-- What follows the time in the text line of an entry; a message may run over several lines. -/
def textBody (entry : Entry) : String :=
  "[" ++ Level.word entry.level ++ "] " ++ entry.author ++ ": " ++ entry.message

end Layout
end CatalogDelta
