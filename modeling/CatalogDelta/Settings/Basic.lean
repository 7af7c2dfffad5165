import CatalogDelta.Lookback.Policy
import CatalogDelta.Retry
import CatalogDelta.Scan.Run
import CatalogDelta.Settings.Environment
import CatalogDelta.Settings.Form
import CatalogDelta.UpdateTime.Source

/-!
# Settings of a scan

Settings say what is scanned, which updates are admitted, where update times come from, how many
workers and connections there are, and which catalog is read. They come by filling their form from a
document, which is the work of a validation.
-/

namespace CatalogDelta

/-- How calls to the catalog are retried. -/
structure RetrySettings where
  maxAttempts : Int := 3
  /-- Seconds before the second attempt. -/
  backoff : Float := 1

/-- The settings of a scan, each with its default. -/
structure Settings where
  databasePattern : String := "*"
  tablePattern : String := "*"
  excludedTables : List String := []
  /-- The duration of the lookback window as it is written: a text, a number of days, or null. -/
  lookback : Data := .null
  lookbackInclusive : Bool := true
  sourceName : String := "metastore"
  sourceOptions : List (String × Data) := []
  strictWatermark : Bool := true
  ignoredParts : List String := []
  tableWorkers : Int := 4
  partitionWorkers : Int := 1
  connections : Int := 4
  /-- Seconds that a lease waits for a connection, if it does not wait without end. -/
  acquireTimeout : Option Float := some 30
  /-- The path of a catalog snapshot. -/
  catalog : Option String := none
  catalogRetry : Option RetrySettings := none

namespace Settings

/-- A wrong configuration is a wrong value to the rule of a field. -/
def asWrongValue (fault : Fault) : Fault :=
  if fault.kind.isA .configuration then .invalidValue fault.brief else fault

def patternRule (pattern : String) : Except Fault String := do
  let _ ← (NamePattern.parse (some pattern)).mapError asWrongValue
  return pattern

def exclusionsRule (entries : List String) : Except Fault (List String) :=
  match entries.find? fun entry => !entry.toList.contains '.' with
  | some entry =>
    .error (.invalidValue ("exclude_tables entries must be 'database.table', got " ++
      Text.quoted entry))
  | none => .ok entries

def lookbackRule (given : Option Data) : Except Fault Data := do
  let value := given.getD .null
  let _ ← (Duration.parse value).mapError asWrongValue
  return value

/-- A source of update times has to be known; its name is kept in its normal form. -/
def sourceRule (name : String) : Except Fault String :=
  let normal := UpdateTimeSource.normalName name
  if UpdateTimeSource.names.contains normal then .ok normal
  else
    .error (.invalidValue ("update_time_provider_kind must be one of: " ++
      Data.literalTexts UpdateTimeSource.names))

def retryForm : Form RetrySettings :=
  (Form.filled RetrySettings.mk)
    |>.plain "max_attempts" (.wholeFrom 1) 3
    |>.plain "backoff_seconds" .realFromZero 1

/-- The form of the settings; what has no place in it is passed over. -/
def form : Form Settings :=
  (Form.filled Settings.mk)
    |>.field "database_pattern" .text patternRule "*"
    |>.field "table_pattern" .text patternRule "*"
    |>.field "exclude_tables" .texts exclusionsRule []
    |>.field "lookback_duration" (.optional .textOrNumber) lookbackRule .null
    |>.plain "lookback_inclusive" .flag true
    |>.field "update_time_provider_kind" .text sourceRule "metastore"
    |>.plain "provider_options" .options []
    |>.plain "strict_watermark" .flag true
    |>.plain "ignore_path_identifiers" .texts []
    |>.plain "max_workers" (.wholeFrom 1) 4
    |>.plain "partition_workers" (.wholeFrom 1) 1
    |>.plain "max_connections" (.wholeFrom 1) 4
    |>.plain "acquire_timeout" (.optional .realAboveZero) (some 30)
    |>.plain "catalog" (.optional .text) none
    |>.inner "catalog_retry" "CatalogRetryConfig" retryForm

/-- The section of a document that holds the settings: the one called `scan`, or the document. -/
def sectionOf : Data → Except Fault (List (String × Data))
  | .null => .ok []
  | .map entries =>
    match OrderedMap.get? "scan" entries with
    | none => .ok entries
    | some (.map content) => .ok content
    | some _ => .error (.configuration "'scan' section must be a mapping" (some "scan"))
  | other =>
    .error (.configuration "Scan configuration must be a mapping" none (.text other.typeName))

def ofDocument (validation : Validation) (environment : Environment) (document : Data) :
    Except Fault Settings := do
  validation.settle form (environment.expandEntries (← sectionOf document))

/-- A number of seconds as data. -/
def secondsData : Option Float → Data
  | none => .null
  | some seconds => .float seconds

def retryData : Option RetrySettings → Data
  | none => .null
  | some retry =>
    .map [("max_attempts", .int retry.maxAttempts), ("backoff_seconds", .float retry.backoff)]

/-- The settings as data, in the order in which they are listed. -/
def toData (settings : Settings) : Data :=
  .map [
    ("database_pattern", .text settings.databasePattern),
    ("table_pattern", .text settings.tablePattern),
    ("exclude_tables", .list (settings.excludedTables.map .text)),
    ("lookback_duration", settings.lookback),
    ("lookback_inclusive", .bool settings.lookbackInclusive),
    ("update_time_provider_kind", .text settings.sourceName),
    ("provider_options", .map settings.sourceOptions),
    ("strict_watermark", .bool settings.strictWatermark),
    ("ignore_path_identifiers", .list (settings.ignoredParts.map .text)),
    ("max_workers", .int settings.tableWorkers),
    ("partition_workers", .int settings.partitionWorkers),
    ("max_connections", .int settings.connections),
    ("acquire_timeout", secondsData settings.acquireTimeout),
    ("catalog", .ofText? settings.catalog),
    ("catalog_retry", retryData settings.catalogRetry)]

def window (settings : Settings) : Except Fault (Option Span) := Duration.parse settings.lookback

def policy (settings : Settings) : Except Fault LookbackPolicy := do
  return ⟨← settings.window, settings.lookbackInclusive⟩

def selector (settings : Settings) : Except Fault Selector :=
  Selector.parse (some settings.databasePattern) (some settings.tablePattern)
    settings.excludedTables

def source (settings : Settings) : Except Fault UpdateTimeSource :=
  UpdateTimeSource.ofName settings.sourceName settings.sourceOptions

/-- How calls to the catalog are retried, if they are. -/
def retry (settings : Settings) : Option RetryConfig :=
  settings.catalogRetry.map fun retry =>
    { maxAttempts := retry.maxAttempts, backoff := .real retry.backoff }

def rules (settings : Settings) : Except Fault ScanRules := do
  return .make (← settings.policy) settings.strictWatermark settings.ignoredParts

/-- Everything that the settings fix of a scan. -/
structure Plan where
  selector : Selector
  source : UpdateTimeSource
  rules : ScanRules
  tableWorkers : Nat
  partitionWorkers : Nat

def plan (settings : Settings) : Except Fault Plan := do
  let selector ← settings.selector
  let source ← settings.source
  let rules ← settings.rules
  return {
    selector
    source := (source.numbered 0).1
    rules
    tableWorkers := Scheduler.workers settings.tableWorkers
    partitionWorkers := Scheduler.workers settings.partitionWorkers }

/-- The scheduler that carries out a plan, given what a scan needs of the outside for a source of
update times. -/
def Plan.scheduler {σ : Type} (plan : Plan) (services : UpdateTimeSource → ScanServices σ) :
    Scheduler σ where
  services := services plan.source
  selector := plan.selector
  rules := plan.rules
  tableWorkers := plan.tableWorkers
  partitionWorkers := plan.partitionWorkers

end Settings
end CatalogDelta
