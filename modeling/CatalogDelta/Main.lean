import CatalogDelta.Command.Run
import Std.Time.DateTime.Timestamp

/-!
# The command on this machine

The files that a call names are gathered into a site, the command runs on the site, and what it has
written is put back. Everything the command decides is decided by `Command.run`.
-/

namespace CatalogDelta.Machine

/-- The time in milliseconds. -/
def now : IO Int := do return (← Std.Time.Timestamp.now).toMillisecondsSinceUnixEpoch.val

def isThere (path : String) : IO Bool := do
  try
    let _ ← IO.FS.realPath path
    return true
  catch _ => return false

/-- Add the file or folder at a path, if there is one. -/
def gatherOne (files : Files) (path : Path) : IO Files := do
  try
    let bytes ← IO.FS.readBinFile path.text
    return { files with contents := OrderedMap.put path.key bytes files.contents }
  catch _ =>
    if ← isThere path.text then return { files with folders := files.folders ++ [path.key] }
    else return files

def gather (files : Files) (path : Path) : IO Files := do
  (Files.wayTo path ++ [path]).foldlM gatherOne files

def namedPaths (invocation : Command.Invocation) : List Path :=
  let ofRequest : Command.Request → List String
    | .scan request => request.settings :: (request.watermarks.toList ++ request.output.toList)
    | .validate settings => [settings]
  (ofRequest invocation.request ++ invocation.logFile.toList).map Path.parse

def settingsPath (invocation : Command.Invocation) : Path :=
  match invocation.request with
  | .scan request => Path.parse request.settings
  | .validate settings => Path.parse settings

def nameIn : Environment.Piece → Option String
  | .plain _ => none
  | .reference _ name => some (String.ofList name)

def environmentFor (text : String) : IO Environment := do
  let names := (Environment.divide text.toList).filterMap nameIn
  let found ← names.mapM fun name => do return (name, ← IO.getEnv name)
  return OrderedMap.ofList (found.filterMap fun (name, value) => value.map (name, ·))

/-- The answer of an act on a site, if it has one. -/
def answerOn {α : Type} (site : Site) (act : Act Site α) : Option α :=
  (act.runOn { outside := site }).1.toOption

def locationsIn (catalog : Catalog) : List String :=
  let ofTables := catalog.databases.flatMap fun (_, tables) => tables.map (·.2.location)
  let ofPartitions := catalog.partitions.flatMap fun (_, partitions) => partitions.map (·.location)
  ((ofTables ++ ofPartitions).filterMap Data.asText?).filter (Storage.protocolOf · = "file")

def known (info : IO.FS.Metadata) : Data :=
  let seconds := Float.ofInt info.modified.sec + info.modified.nsec.toNat.toFloat / 1000000000
  .map [("type", .text (if info.type matches .dir then "directory" else "file")),
    ("mtime", .float seconds)]

def look (location : String) : IO (Option (Data × List Data)) := do
  try
    let path ← IO.FS.realPath location
    let info ← path.metadata
    let children ←
      if info.type matches .dir then
        (← path.readDir).toList.mapM fun child => do return known (← child.path.metadata)
      else pure []
    return some (known info, children)
  catch _ => return none

def drive (catalog : Catalog) : IO Drive := do
  let found ← (locationsIn catalog).mapM fun location => do return (location, ← look location)
  let there := found.filterMap fun (location, known) => known.map (location, ·)
  return .reachable {
    info := there.map fun (location, info, _) => (location, .ok info)
    children := there.map fun (location, _, children) => (location, .ok (.list children)) }

def prepare (invocation : Command.Invocation) : IO (Site × Environment) := do
  let files ← (namedPaths invocation).foldlM gather {}
  let path := settingsPath invocation
  let text := (files.readText path).toOption.getD ""
  let environment ← environmentFor text
  let site : Site := { files, now := ← now }
  match answerOn site (Settings.load .usual Site.fileAccess environment path) with
  | none => return (site, environment)
  | some settings =>
    let catalogPath := path.parent.under (Path.parse (settings.catalog.getD ""))
    let site := { site with files := ← gather site.files catalogPath }
    let catalog := answerOn site (settings.loadCatalog Json.readDocument Site.fileAccess path.parent)
    return ({ site with drives := [("file", ← drive (catalog.getD {}))] }, environment)

def putBack (before after : Files) : IO Unit := do
  for (path, bytes) in after.contents do
    if OrderedMap.get? path before.contents != some bytes then
      let folder := (Path.parse path).parent
      if !folder.names.isEmpty then IO.FS.createDirAll folder.text
      let draft := path ++ ".part"
      IO.FS.writeBinFile draft bytes
      IO.FS.rename draft path

def usage : String :=
  "usage: changescan [-h] [-v] [--json-log] [--log-file LOG_FILE]\n" ++
    "                  scan [-h] [--watermarks FILE] [--now MILLISECONDS] [--output FILE]\n" ++
    "                       [--commit] [--fail-on-partial] SETTINGS\n" ++
    "       changescan [-h] [-v] [--json-log] [--log-file LOG_FILE] validate [-h] SETTINGS\n"

def call (words : List String) (invocation : Command.Invocation) : IO UInt32 := do
  let (site, environment) ← prepare invocation
  let (outcome, stage) := (Command.run .usual environment words).runOn { outside := site }
  putBack site.files stage.outside.files
  IO.print stage.outside.console.output
  IO.eprint stage.outside.console.errors
  match outcome with
  | .ok (.finished code) => return code.toUInt32
  | .ok (.halted halt) => return halt.code.toUInt32
  | .error fault =>
    IO.eprintln (fault.kind.name ++ ": " ++ fault.text)
    return 1

end CatalogDelta.Machine

def main (words : List String) : IO UInt32 := do
  match CatalogDelta.Command.Invocation.ofWords words with
  | .ok invocation => CatalogDelta.Machine.call words invocation
  | .error halt =>
    match halt with
    | .help => IO.print CatalogDelta.Machine.usage
    | .misuse => IO.eprint CatalogDelta.Machine.usage
    return halt.code.toUInt32
