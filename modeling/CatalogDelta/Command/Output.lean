import CatalogDelta.Journal.Sink
import CatalogDelta.Settings.Basic
import CatalogDelta.Site.Basic

/-!
# What the command writes

Work goes to the output, one bag of properties on each line. The journal and the summary go to the
error stream in the order in which they arise; the journal also goes to its file, if it has one,
which is held open all the while.
-/

namespace CatalogDelta.Command

def print (text : String) : Act Site Unit :=
  Act.change fun site => { site with console.output := site.console.output ++ text }

def moment : Act Site Moment := do return Moment.ofEpochMicros ((← Act.view Site.now) * 1000)

def linesOf (sink : Sink) (time : Moment) (journal : Journal) : String :=
  String.join ((sink.kept journal).map (sink.line time))

def showErrors (text : String) (entriesShown : Nat) : Act Site Unit :=
  Act.change fun site =>
    { site with console :=
        { site.console with errors := site.console.errors ++ text, entriesShown } }

/-- Write the entries of the journal that have not been written yet. -/
def flush (sink : Sink) : Act Site Unit := do
  let stage ← get
  let text := linesOf sink (← moment) (stage.journal.drop stage.outside.console.entriesShown)
  showErrors text stage.journal.length
  if sink.file.isSome then
    Act.change fun site => { site with files := site.files.appendHeld text }

/-- Open the file of the journal, if it has one. -/
def openJournal (sink : Sink) : Act Site Unit :=
  match sink.file with
  | none => return
  | some file => Site.fileAccess.step (·.hold (Path.parse file))

def printError (sink : Sink) (text : String) : Act Site Unit := do
  flush sink
  showErrors text (← get).journal.length

def workLine (work : Work) : Except Fault String := do
  return Json.compact (.ofData (.map (Json.sortedMembers (← work.toProperties)))) ++ "\n"

/-- The lines of units of work up to the first that has none, and its fault. -/
def workLines : List Work → String × Except Fault Unit
  | [] => ("", .ok ())
  | work :: others =>
    match workLine work with
    | .error fault => ("", .error fault)
    | .ok line =>
      let (lines, outcome) := workLines others
      (line ++ lines, outcome)

def rule (mark : Char) (width : Nat) : String := "".pushn mark width

def windowText : Option Span → String
  | none => "none"
  | some span => if span.micros = 0 then "none" else span.text

def failureLine (failure : ScanFailure) : String :=
  "  " ++ failure.entity ++ "  [" ++ failure.kind.word ++ "]  " ++ failure.message

/-- The failures in the summary, if there are any. -/
def failureLines (failures : List ScanFailure) : List String :=
  if failures.isEmpty then []
  else
    ["", "PARTIAL FAILURES (" ++ toString failures.length ++ "):", rule '-' 40] ++
      failures.map failureLine

def summary (settings : Settings) (window : Option Span) (result : ScanResult) : String :=
  let lines :=
    ["", rule '=' 60, "SCAN SUMMARY", rule '=' 60,
      "  Databases:         " ++ settings.databasePattern,
      "  Tables:            " ++ settings.tablePattern,
      "  Lookback:          " ++ windowText window,
      "  Provider:          " ++ settings.sourceName,
      "  Tables scanned:    " ++ toString result.tablesScanned,
      "  Work descriptors:  " ++ toString result.work.length,
      "  Datasets advanced: " ++ toString result.watermarks.length] ++
    failureLines result.failures ++ [rule '=' 60]
  String.join (lines.map (· ++ "\n"))

end CatalogDelta.Command
