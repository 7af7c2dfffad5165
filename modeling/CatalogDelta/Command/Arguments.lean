import CatalogDelta.Command.Switch
import CatalogDelta.Data.Integer

/-!
# Arguments of the command

The command is `scan` or `validate` with the path of the settings. Switches before it concern the
journal; the others belong to the scan.
-/

namespace CatalogDelta.Command

/-- What is asked of a scan. -/
structure ScanRequest where
  settings : String
  watermarks : Option String := none
  /-- The time of the scan in milliseconds, if it is not the time now. -/
  now : Option Int := none
  output : Option String := none
  commit : Bool := false
  failOnPartial : Bool := false
  deriving Repr, DecidableEq

/-- What is asked of the command. -/
inductive Request where
  | scan (request : ScanRequest)
  | validate (settings : String)
  deriving Repr, DecidableEq

/-- A call of the command. -/
structure Invocation where
  verbose : Bool := false
  asJson : Bool := false
  logFile : Option String := none
  request : Request
  deriving Repr, DecidableEq

namespace Arguments

def help : Switch := { name := "help", spellings := ["-h", "--help"], takes := .help }

def generalSwitches : List Switch :=
  [help, { name := "verbose", spellings := ["-v", "--verbose"] },
   { name := "json-log", spellings := ["--json-log"] },
   { name := "log-file", spellings := ["--log-file"], takes := .value }]

def isWhole (text : String) : Bool := (Data.integerOfText text).isOk

def scanSwitches : List Switch :=
  [help, { name := "watermarks", spellings := ["--watermarks"], takes := .value },
   { name := "now", spellings := ["--now"], takes := .value, accepts := isWhole },
   { name := "output", spellings := ["--output"], takes := .value },
   { name := "commit", spellings := ["--commit"] },
   { name := "fail-on-partial", spellings := ["--fail-on-partial"] }]

/-- What has been read after the name of a command. -/
structure Reading where
  operand : Option String := none
  given : List Given := []
  /-- Some word has no place. -/
  surplus : Bool := false

namespace Reading

def add (reading : Reading) (step : Sighting.Step) : Reading :=
  { reading with
    given := reading.given ++ step.given, surplus := reading.surplus || step.surplus }

/-- Read an operand: the first one has a place. -/
def operate (reading : Reading) (word : String) : Reading :=
  match reading.operand with
  | none => { reading with operand := some word }
  | some _ => { reading with surplus := true }

/-- Read the operands after a separator. The separator itself is passed over only beside the operand
that has a place; `fresh` says that this operand stands right before it. -/
def operateAfter (reading : Reading) (fresh : Bool) (words : List String) : Reading :=
  match reading.operand, words with
  | none, word :: others =>
    { reading with operand := some word, surplus := reading.surplus || !others.isEmpty }
  | _, words => { reading with surplus := reading.surplus || !fresh || !words.isEmpty }

end Reading

/-- Read the words after the name of a command; `fresh` says that the word before was the
operand. -/
def readWords (switches : List Switch) : Nat → Bool → Reading → List (String × Mark) →
    Except Halt Reading
  | 0, _, reading, _ => .ok reading
  | _ + 1, _, reading, [] => .ok reading
  | fuel + 1, fresh, reading, (word, mark) :: others =>
    match mark with
    | .operand =>
      readWords switches fuel reading.operand.isNone (reading.operate word) others
    | .unknown => readWords switches fuel false { reading with surplus := true } others
    | .separator => .ok (reading.operateAfter fresh (others.map (·.1)))
    | .known sighting => do
      let step ← sighting.give switches others
      readWords switches fuel false (reading.add step) step.rest

/-- The last value that was given for a switch. -/
def valueOf (given : List Given) (name : String) : Option String :=
  given.reverse.lookup name

def isGiven (given : List Given) (name : String) : Bool := (valueOf given name).isSome

def scanRequest (settings : String) (given : List Given) : Request :=
  .scan {
    settings
    watermarks := valueOf given "watermarks"
    now := (valueOf given "now").bind fun text => (Data.integerOfText text).toOption
    output := valueOf given "output"
    commit := isGiven given "commit"
    failOnPartial := isGiven given "fail-on-partial" }

def commands : List (String × List Switch × (String → List Given → Request)) :=
  [("scan", scanSwitches, scanRequest), ("validate", [help], fun settings _ => .validate settings)]

/-- Read a command with the words after its name; no word may be left over. -/
def readCommand (name : String) (words : List String) : Except Halt Request :=
  match commands.lookup name with
  | none => .error .misuse
  | some (switches, request) => do
    let marked ← Switch.marks switches words
    let reading ← readWords switches (marked.length + 1) false {} marked
    match reading.operand, reading.surplus with
    | some settings, false => return request settings reading.given
    | _, _ => throw .misuse

def invocation (given : List Given) (request : Request) : Invocation where
  verbose := isGiven given "verbose"
  asJson := isGiven given "json-log"
  logFile := valueOf given "log-file"
  request

/-- Read the words from the first one on. `surplus` says that some word before had no place. -/
def readGeneral : Nat → Bool → List Given → List (String × Mark) → Except Halt Invocation
  | 0, _, _, _ | _ + 1, _, _, [] => .error .misuse
  | fuel + 1, surplus, given, (word, mark) :: others =>
    match mark with
    | .unknown => readGeneral fuel true given others
    | .separator => .error .misuse
    | .operand => do
      let request ← readCommand word (others.map (·.1))
      if surplus then throw .misuse
      return invocation given request
    | .known sighting => do
      let step ← sighting.give generalSwitches others
      readGeneral fuel (surplus || step.surplus) (given ++ step.given) step.rest

end Arguments

def Invocation.ofWords (words : List String) : Except Halt Invocation := do
  let marked ← Switch.marks Arguments.generalSwitches words
  Arguments.readGeneral (marked.length + 1) false [] marked

end CatalogDelta.Command
