import CatalogDelta.Command.Arguments
import CatalogDelta.Command.Output
import CatalogDelta.Settings.Load
import CatalogDelta.Site.Services
import CatalogDelta.Watermark.Store

/-!
# Running the command

A scan loads settings, watermarks and catalog, writes the work it finds, and only after that stores
the watermarks, if it is asked to. Wrong settings and a lost connection end the run with a code of
their own; any other fault is left to the caller.
-/

namespace CatalogDelta.Command

/-- How a run ends. -/
inductive Ending where
  /-- The arguments are not a call of the command. -/
  | halted (halt : Halt)
  | finished (code : Nat)
  deriving Repr, DecidableEq

/-- The codes with which a run ends. -/
inductive Exit where
  | ok
  | partialFailure
  | configuration
  | connection
  deriving Repr, DecidableEq

def Exit.code : Exit → Nat
  | ok => 0
  | partialFailure => 1
  | configuration => 2
  | connection => 3

/-- The code for arguments that cannot be read, or that ask for help. -/
def Halt.code : Halt → Nat
  | .help => 0
  | .misuse => 2

def clientName : String := "catalog"

/-- Set up the catalog of a site and an empty pool over one client. -/
def connectCatalog (repeater : Repeater) (settings : Settings) (catalog : Catalog) :
    Act Site Site.PoolSetup := do
  Act.change fun site =>
    { site with
      catalog
      pool := .ofSize settings.connections.toNat
      factory := .ofOne clientName none }
  return {
    client := settings.client repeater Site.pause (Site.client Catalog.clientKind)
    patience := Settings.secondsData settings.acquireTimeout }

def loadPrior (request : ScanRequest) : Act Site Ledger :=
  match Report.nonEmpty request.watermarks with
  | none => return []
  | some path => Ledger.load Site.fileAccess (Path.parse path)

def scanWith (settings : Settings) (setup : Site.PoolSetup) (prior : Watermarks)
    (now : Option Int) : Act Site ScanResult :=
  (Site.host setup).closing do
    let plan ← Act.settle settings.plan
    Scan.request (plan.scheduler (Site.services setup))
      (prior.map fun (dataset, millis) => (.dataset dataset, .int millis))
      ((now.map Data.int).getD .null)

def writeWork (sink : Sink) (request : ScanRequest) (work : List Work) : Act Site Unit := do
  let (lines, outcome) := workLines work
  match Report.nonEmpty request.output with
  | none =>
    print lines
    Act.settle outcome
  | some file =>
    flush sink
    Site.fileAccess.writeText (Path.parse file) lines
    Act.settle outcome
    Act.note Level.info Author.command
      ("Wrote " ++ toString work.length ++ " work descriptor(s) to " ++ file)

/-- Store the watermarks that a scan has reached, if it is asked to. -/
def commit (sink : Sink) (request : ScanRequest) (prior : Ledger) (reached : Watermarks) :
    Act Site Unit := do
  match request.commit, Report.nonEmpty request.watermarks with
  | true, some path =>
    let merged ← prior.marks.mergeNoted reached
    flush sink
    (prior.putMarks merged).save Site.fileAccess (Path.parse path) (← moment).isoText
  | _, _ => return

def commitWithoutWatermarks : Fault :=
  .configuration "--commit needs --watermarks" none .null
    (some "Pass the watermark state file to update.")

def exitOf (request : ScanRequest) (result : ScanResult) : Exit :=
  if result.hasFailures && request.failOnPartial then .partialFailure else .ok

/-- What a scan starts from and what comes of it. -/
structure Findings where
  settings : Settings
  /-- The watermarks that were stored before. -/
  prior : Ledger
  result : ScanResult

/-- Write the work that has been found, store the watermarks if that is asked for, and sum up. -/
def deliver (sink : Sink) (request : ScanRequest) (findings : Findings) : Act Site Unit := do
  writeWork sink request findings.result.work
  commit sink request findings.prior findings.result.watermarks
  let window ← Act.settle findings.settings.window
  printError sink (summary findings.settings window findings.result)

/-- End a run that has failed, if its fault has a code. -/
def conclude (sink : Sink) (fault : Fault) : Act Site Exit := do
  if fault.kind.isA .configuration then
    printError sink ("Configuration error: " ++ fault.text ++ "\n")
    return .configuration
  else if fault.kind.isA .connectionFailure then
    Act.note Level.error Author.command ("Scan aborted: " ++ fault.text)
    return .connection
  else
    flush sink
    throw fault

section Serving

variable (libraries : Libraries) (environment : Environment) (sink : Sink)

/-- Load the settings, the watermarks and the catalog, and scan. The journal is written up before
anything is read that may be kept in its file. -/
def look (request : ScanRequest) : Act Site Findings := do
  let path := Path.parse request.settings
  let settings ← Settings.load libraries Site.fileAccess environment path
  flush sink
  let prior ← loadPrior request
  flush sink
  let catalog ← settings.loadCatalog libraries.reader Site.fileAccess path.parent
  let setup ← connectCatalog libraries.repeater settings catalog
  let result ← scanWith settings setup prior.marks request.now
  return { settings, prior, result }

/-- Do all that is asked for, and tell what has been found. -/
def complete (request : ScanRequest) : Act Site Findings := do
  if request.commit && (Report.nonEmpty request.watermarks).isNone then
    throw commitWithoutWatermarks
  let findings ← look libraries environment sink request
  deliver sink request findings
  return findings

def scan (request : ScanRequest) : Act Site Exit := do
  return exitOf request (← complete libraries environment sink request).result

def validate (path : String) : Act Site Exit := do
  let settings ← Settings.load libraries Site.fileAccess environment (Path.parse path)
  let text := Json.indented 0 (.ofData settings.toData)
  print ("Configuration OK: " ++ path ++ "\n" ++ text ++ "\n")
  return .ok

def serve : Request → Act Site Exit
  | .scan request => scan libraries environment sink request
  | .validate path => validate libraries environment path

/-- Serve a request and end the run. -/
def respond (request : Request) : Act Site Exit := do
  let exit ←
    match ← Act.attempt (serve libraries environment sink request) with
    | .ok exit => pure exit
    | .error fault => conclude sink fault
  flush sink
  return exit

end Serving

def Invocation.sink (invocation : Invocation) : Sink :=
  Sink.ofOptions invocation.verbose invocation.asJson invocation.logFile

def invoke (libraries : Libraries) (environment : Environment) (invocation : Invocation) :
    Act Site Exit := do
  openJournal invocation.sink
  respond libraries environment invocation.sink invocation.request

def run (libraries : Libraries) (environment : Environment) (words : List String) :
    Act Site Ending :=
  match Invocation.ofWords words with
  | .error halt => return .halted halt
  | .ok invocation => return .finished (← invoke libraries environment invocation).code

end CatalogDelta.Command
