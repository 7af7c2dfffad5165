import CatalogDelta.Files.Encoding
import CatalogDelta.OrderedMap
import CatalogDelta.Text.Pieces

/-!
# Files

A path is a row of names, from the root or from the current folder. Empty names and single points
are dropped when a path is read. A file store maps paths to bytes. Every folder on the way to a file
is there, and folders can be made on their own. One file may be held open to be written to at its
end, wherever it is moved.
-/

namespace CatalogDelta

/-- A path of a file or a folder. -/
structure Path where
  rooted : Bool := false
  names : List String := []
  deriving Repr, DecidableEq, Inhabited

namespace Path

def parse (text : String) : Path :=
  let chars := text.toList
  { rooted := chars.head? = some '/'
    names := ((Text.pieces '/' chars).map String.ofList).filter fun name =>
      !name.isEmpty && name != "." }

/-- The path as text; the current folder is a point. -/
def text (path : Path) : String :=
  if path.rooted then "/" ++ "/".intercalate path.names
  else if path.names.isEmpty then "."
  else "/".intercalate path.names

/-- A path seen from a folder; a path from the root stays as it is. -/
def under (base path : Path) : Path :=
  if path.rooted then path else { base with names := base.names ++ path.names }

def parent (path : Path) : Path := { path with names := path.names.dropLast }

/-- The path with more characters at its end; there has to be a name. -/
def extended? (path : Path) (ending : String) : Option Path :=
  match path.names.getLast? with
  | none => none
  | some name => some { path with names := path.names.dropLast ++ [name ++ ending] }

/-- The names left when every pair of points takes away the name before it. -/
def climbed (names : List String) : List String :=
  (names.foldl (fun found name => if name = ".." then found.drop 1 else name :: found) []).reverse

/-- The key under which a path is stored: one for all paths to the same place. -/
def key (path : Path) : String :=
  (if path.rooted then "/" else "") ++ "/".intercalate (climbed path.names)

end Path

/-! ## File stores -/

/-- Files with their contents, and folders made on their own. -/
structure Files where
  contents : OrderedMap String ByteArray := []
  folders : List String := []
  /-- The key of the file that is held open, unless it is gone. -/
  held : Option String := none
  deriving Inhabited

namespace Files

def isFile (files : Files) (path : Path) : Bool := OrderedMap.hasKey path.key files.contents

def isFolderKey (files : Files) (key : String) : Bool :=
  key.isEmpty || key = "/" || files.folders.contains key ||
    files.contents.any fun (stored, _) => (key ++ "/").toList.isPrefixOf stored.toList

def isFolder (files : Files) (path : Path) : Bool := files.isFolderKey path.key

def isThere (files : Files) (path : Path) : Bool := files.isFile path || files.isFolder path

/-- The paths of the folders on the way to a path, the farthest first. -/
def wayTo (path : Path) : List Path :=
  (List.range path.names.length).map fun count => { path with names := path.names.take count }

def isBlocked (files : Files) (path : Path) : Bool := (wayTo path).any files.isFile

/-- Nothing is at a path. -/
def missing (files : Files) (path : Path) : Fault :=
  if files.isBlocked path then .misuse .notDirectory ("Not a directory: " ++ Text.quoted path.text)
  else .misuse .fileMissing ("No such file or directory: " ++ Text.quoted path.text)

/-- A folder is where a file should be. -/
def folderFault (path : Path) : Fault :=
  .misuse .isDirectory ("Is a directory: " ++ Text.quoted path.text)

def readBytes (files : Files) (path : Path) : Except Fault ByteArray :=
  match OrderedMap.get? path.key files.contents with
  | some bytes => .ok bytes
  | none => .error (if files.isFolder path then folderFault path else files.missing path)

def readText (files : Files) (path : Path) : Except Fault String := do
  Encoding.decode (← files.readBytes path)

def write (files : Files) (path : Path) (bytes : ByteArray) : Except Fault Files :=
  if files.isFolder path then .error (folderFault path)
  else if !files.isFolder path.parent then .error (files.missing path)
  else .ok { files with contents := OrderedMap.put path.key bytes files.contents }

def writeText (files : Files) (path : Path) (text : String) : Except Fault Files :=
  files.write path (Encoding.encode text)

/-- Write a text at the end of a file, which is made if it is not there. -/
def appendText (files : Files) (path : Path) (text : String) : Except Fault Files :=
  let earlier := (OrderedMap.get? path.key files.contents).getD ByteArray.empty
  files.write path (earlier ++ Encoding.encode text)

/-- Open a file to write at its end, and hold it open; it is made if it is not there. -/
def hold (files : Files) (path : Path) : Except Fault Files := do
  return { ← files.appendText path "" with held := some path.key }

/-- Write a text at the end of the file that is held open; it is lost if the file is gone. -/
def appendHeld (files : Files) (text : String) : Files :=
  match files.held with
  | none => files
  | some key =>
    let earlier := (OrderedMap.get? key files.contents).getD ByteArray.empty
    { files with contents := OrderedMap.put key (earlier ++ Encoding.encode text) files.contents }

def makeFolder (files : Files) (path : Path) : Except Fault Files :=
  if files.isFolder path then .ok files
  else if files.isBlocked path then .error (files.missing path)
  else if files.isFile path then
    .error (.misuse .fileThere ("File exists: " ++ Text.quoted path.text))
  else
    .ok { files with
      folders := files.folders ++ ((wayTo path).drop 1 ++ [path]).map Path.key }

/-- Where a file with a key stands once the file at one key has been moved over another. -/
def keyAfter (source target key : String) : Option String :=
  if key = source then some target else if key = target then none else some key

/-- Move a file over another path. -/
def move (files : Files) (source target : Path) : Except Fault Files := do
  let bytes ← files.readBytes source
  let moved ← files.write target bytes
  return { moved with
    contents := OrderedMap.erase source.key moved.contents
    held := moved.held.bind (keyAfter source.key target.key) }

end Files
end CatalogDelta
