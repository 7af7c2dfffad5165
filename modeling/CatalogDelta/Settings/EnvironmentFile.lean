import CatalogDelta.Fault
import CatalogDelta.Files.Basic
import CatalogDelta.Settings.Environment
import CatalogDelta.Text.Classes

/-!
# Files that set variables

A file sets variables in lines `NAME=value`. A name may follow the word `export` or stand between
quotation marks; a value may be quoted, with escapes, over several lines, or plain up to the end of
the line or a comment. A line that cannot be read is passed over. Values may refer to variables set
before. Variables of the environment win over those of the file.
-/

namespace CatalogDelta.EnvironmentFile

def isInlineBlank (c : Char) : Bool := Text.isBlank c && c ≠ '\r' && c ≠ '\n'

def isLineEnd (c : Char) : Bool := c = '\r' || c = '\n'

def skipInline (text : List Char) : List Char := text.dropWhile isInlineBlank

def skipLine (text : List Char) : List Char := (text.dropWhile fun c => !isLineEnd c).drop 1

/-- What follows the end of a line, if only blanks stand before it. -/
def afterLineEnd? (text : List Char) : Option (List Char) :=
  match skipInline text with
  | [] => some []
  | c :: rest => if isLineEnd c then some rest else none

/-- Skip a comment that blanks may precede. -/
def skipComment (text : List Char) : List Char :=
  match skipInline text with
  | '#' :: rest => rest.dropWhile fun c => !isLineEnd c
  | _ => text

/-- The word that may stand before a name. -/
def exportWord : List Char := "export".toList

/-- Skip the word that may stand before a name. -/
def skipExport (text : List Char) : List Char :=
  if exportWord.isPrefixOf text then
    match text.drop exportWord.length with
    | c :: rest => if isInlineBlank c then skipInline rest else text
    | [] => text
  else text

def isNameChar (c : Char) : Bool := c ≠ '=' && c ≠ '#' && !Text.isBlank c

/-- The text up to a closing mark, and what follows it. A mark after a backslash closes only if no
other mark does. -/
def quotedText? (mark : Char) : List Char → Option (List Char × List Char)
  | [] => none
  | '\\' :: c :: rest =>
    if c = mark then
      match quotedText? mark rest with
      | some (content, after) => some ('\\' :: c :: content, after)
      | none => some (['\\'], rest)
    else (quotedText? mark (c :: rest)).map fun (content, after) => ('\\' :: content, after)
  | c :: rest =>
    if c = mark then some ([], rest)
    else (quotedText? mark rest).map fun (content, after) => (c :: content, after)

def escapeTarget? (mark : Char) : Char → Option Char
  | '\\' => some '\\'
  | '\'' => some '\''
  | c =>
    if mark = '"' then
      match c with
      | '"' => some '"'
      | 'a' => some '\x07'
      | 'b' => some '\x08'
      | 'f' => some '\x0c'
      | 'n' => some '\n'
      | 'r' => some '\r'
      | 't' => some '\t'
      | 'v' => some '\x0b'
      | _ => none
    else none

def unescaped (mark : Char) : List Char → List Char
  | [] => []
  | '\\' :: c :: rest =>
    match escapeTarget? mark c with
    | some target => target :: unescaped mark rest
    | none => '\\' :: unescaped mark (c :: rest)
  | c :: rest => c :: unescaped mark rest

/-- A line without its comment; a comment begins after a blank. -/
def withoutComment : List Char → List Char
  | [] => []
  | c :: rest =>
    if Text.isBlank c && (rest.dropWhile Text.isBlank).head? = some '#' then []
    else c :: withoutComment rest

def trimEnd (text : List Char) : List Char := (text.reverse.dropWhile Text.isBlank).reverse

def value? : List Char → Option (List Char × List Char)
  | '\'' :: rest =>
    (quotedText? '\'' rest).map fun (content, after) => (unescaped '\'' content, after)
  | '"' :: rest =>
    (quotedText? '"' rest).map fun (content, after) => (unescaped '"' content, after)
  | text =>
    let (line, after) := text.span fun c => !isLineEnd c
    some (trimEnd (withoutComment line), after)

/-- The name at the start of a line, none for a comment, and what follows it. -/
def name? : List Char → Option (Option (List Char) × List Char)
  | '#' :: rest => some (none, '#' :: rest)
  | '\'' :: rest =>
    let (name, after) := rest.span (· ≠ '\'')
    match after with
    | _ :: after => if name.isEmpty then none else some (some name, after)
    | [] => none
  | text =>
    let (name, after) := text.span isNameChar
    if name.isEmpty then none else some (some name, after)

/-- A variable with its value, if it has one. -/
abbrev Setting := List Char × Option (List Char)

/-- The end of a setting: a comment, if any, and the end of the line. -/
def settled (name : Option (List Char)) (value : Option (List Char)) (text : List Char) :
    List Setting × List Char :=
  match afterLineEnd? (skipComment text) with
  | some rest => (name.toList.map (·, value), rest)
  | none => ([], skipLine (skipComment text))

/-- The setting at the start of a text, if there is one, and what follows its line. -/
def setting (text : List Char) : List Setting × List Char :=
  let start := skipExport text
  match name? start with
  | none => ([], skipLine start)
  | some (name, afterName) =>
    match skipInline afterName with
    | '=' :: afterSign =>
      let valueStart := skipInline afterSign
      match value? valueStart with
      | none => ([], skipLine valueStart)
      | some (value, rest) => settled name (some value) rest
    | rest => settled name none rest

/-- The settings of a text with at most so many lines. -/
def settings : Nat → List Char → List Setting
  | 0, _ => []
  | fuel + 1, text =>
    match text.dropWhile Text.isBlank with
    | [] => []
    | start =>
      let (found, rest) := setting start
      found ++ settings fuel rest

/-- A reference in a value: its name, its default, and what follows it. -/
def reference? : List Char → Option (List Char × List Char × List Char)
  | '$' :: c :: rest =>
    if c = Environment.opening then
      let (name, after) := rest.span fun c => c ≠ Environment.closing && c ≠ ':'
      match after with
      | ':' :: '-' :: fallback =>
        let (fallback, after) := fallback.span (· ≠ Environment.closing)
        match after with
        | _ :: after => some (name, fallback, after)
        | [] => none
      | ':' :: _ => none
      | _ :: after => some (name, [], after)
      | [] => none
    else none
  | _ => none

/-- Replace the references in a value with at most so many characters. -/
def resolved (lookUp : String → List Char → List Char) : Nat → List Char → List Char
  | 0, text => text
  | _ + 1, [] => []
  | fuel + 1, c :: rest =>
    match reference? (c :: rest) with
    | some (name, fallback, after) =>
      lookUp (String.ofList name) fallback ++ resolved lookUp fuel after
    | none => c :: resolved lookUp fuel rest

def lookUp (environment : Environment) (found : OrderedMap String (Option String))
    (name : String) (fallback : List Char) : List Char :=
  match OrderedMap.get? name environment with
  | some value => value.toList
  | none =>
    match OrderedMap.get? name found with
    | some (some value) => value.toList
    | some none => []
    | none => fallback

def resolveOnto (environment : Environment) (found : OrderedMap String (Option String)) :
    List Setting → OrderedMap String (Option String)
  | [] => found
  | (name, value) :: others =>
    let resolvedValue := value.map fun value =>
      String.ofList (resolved (lookUp environment found) value.length value)
    resolveOnto environment (OrderedMap.put (String.ofList name) resolvedValue found) others

/-- Set a variable that is not set yet. -/
def assign (environment : Environment) (name value : String) : Except Fault Environment :=
  if OrderedMap.hasKey name environment then .ok environment
  else if name.toList.contains '\x00' || value.toList.contains '\x00' then
    .error (.invalidValue "embedded null byte")
  else if name.toList.contains '=' then .error (.invalidValue "illegal environment variable name")
  else .ok (OrderedMap.put name value environment)

def apply (text : String) (environment : Environment) : Except Fault Environment :=
  let chars := text.toList
  (resolveOnto environment [] (settings (chars.length + 1) chars)).foldlM
    (fun environment (name, value) =>
      match value with
      | some value => assign environment name value
      | none => .ok environment)
    environment

/-- The environment with the variables of a file, if one is named and there. -/
def load (files : Files) (path : Option Path) (environment : Environment) :
    Except Fault Environment :=
  match path with
  | none => .ok environment
  | some path => do
    if files.isFile path then apply (← files.readText path) environment else return environment

end CatalogDelta.EnvironmentFile
