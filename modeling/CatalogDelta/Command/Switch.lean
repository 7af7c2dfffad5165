import CatalogDelta.Text.Classes
import CatalogDelta.Text.Pieces

/-!
# Switches of a command line

A switch is a word that begins with a dash. It may be cut short where that leaves only one switch;
its value follows it or stands after an equals sign; short switches without values may share a dash.
After a lone pair of dashes every word is an operand.
-/

namespace CatalogDelta.Command

/-- What follows a switch. -/
inductive Takes where
  | nothing
  | value
  /-- Nothing; the switch asks for help and ends the reading. -/
  | help
  deriving Repr, DecidableEq

/-- A switch of a command line. -/
structure Switch where
  name : String
  /-- How the switch is written, dashes included. -/
  spellings : List String
  takes : Takes := .nothing
  /-- The values that the switch may have. -/
  accepts : String → Bool := fun _ => true

/-- Why the reading of a command line ends early. -/
inductive Halt where
  | help
  | misuse
  deriving Repr, DecidableEq

/-- What stands behind a switch in the same word. -/
inductive Tail where
  | none
  /-- Text after an equals sign. -/
  | value (text : String)
  /-- Text with nothing in between. -/
  | letters (text : String)
  deriving Repr, DecidableEq

/-- A switch found in a word, the spelling meant, and what stands behind it. -/
structure Sighting where
  switch : Switch
  spelling : String
  tail : Tail := .none

/-- What a word of a command line is. -/
inductive Mark where
  | operand
  | separator
  | known (sighting : Sighting)
  | unknown

namespace Switch

def spelled (switches : List Switch) : List (String × Switch) :=
  switches.flatMap fun switch => switch.spellings.map (·, switch)

/-- The switch with exactly a spelling. -/
def find? (switches : List Switch) (spelling : String) : Option Switch :=
  (spelled switches).lookup spelling

/-- The part of a word before its first equals sign and the part after it, if it has one. -/
def cutValue (word : List Char) : List Char × Tail :=
  match Text.cutFirst '=' word with
  | some (before, after) => (before, .value (String.ofList after))
  | none => (word, .none)

/-- The sightings in a word that is no exact spelling: cut short after two dashes, or a short switch
with more characters behind it. -/
def candidates (switches : List Switch) (word : List Char) : List Sighting :=
  match word with
  | '-' :: '-' :: _ =>
    let (start, tail) := cutValue word
    (spelled switches).filterMap fun (spelling, switch) =>
      if start.isPrefixOf spelling.toList then some ⟨switch, spelling, tail⟩ else none
  | first :: second :: rest =>
    (spelled switches).filterMap fun (spelling, switch) =>
      if spelling.toList = [first, second] then
        some ⟨switch, spelling, .letters (String.ofList rest)⟩
      else none
  | _ => []

def isNumeralDigit (c : Char) : Bool := Text.isDigit c

def isNegativeNumber : List Char → Bool
  | '-' :: rest =>
    let (whole, after) := rest.span isNumeralDigit
    match after with
    | [] | ['\n'] => !whole.isEmpty
    | '.' :: fraction =>
      let (digits, ending) := fraction.span isNumeralDigit
      !digits.isEmpty && (ending.isEmpty || ending == ['\n'])
    | _ => false
  | _ => false

/-- What a word is that begins with a dash and is longer than that, by the switches it could be. -/
def markOfCandidates (word : List Char) : List Sighting → Except Halt Mark
  | [sighting] => .ok (.known sighting)
  | _ :: _ :: _ => .error .misuse
  | [] => .ok (if isNegativeNumber word || word.contains ' ' then .operand else .unknown)

/-- What a word is, where no separator stands before it. -/
def markOf (switches : List Switch) (word : String) : Except Halt Mark :=
  match word.toList with
  | '-' :: rest =>
    match find? switches word with
    | some switch => .ok (.known ⟨switch, word, .none⟩)
    | none =>
      if rest.isEmpty then .ok .operand
      else
        let (start, tail) := cutValue word.toList
        match tail, find? switches (String.ofList start) with
        | .value text, some switch => .ok (.known ⟨switch, String.ofList start, .value text⟩)
        | _, _ => markOfCandidates word.toList (candidates switches word.toList)
  | _ => .ok .operand

def marks (switches : List Switch) : List String → Except Halt (List (String × Mark))
  | [] => .ok []
  | word :: others =>
    if word = "--" then .ok ((word, .separator) :: others.map (·, .operand))
    else do
      let mark ← markOf switches word
      return (word, mark) :: (← marks switches others)

end Switch

abbrev Given := String × String

namespace Sighting

def effect (switch : Switch) (value : String) : Except Halt Given :=
  match switch.takes with
  | .help => .error .help
  | .nothing => .ok (switch.name, value)
  | .value => if switch.accepts value then .ok (switch.name, value) else .error .misuse

/-- The short switches written by letters behind a switch that takes nothing, and whether the
letters end with one that is no switch. -/
def cluster (switches : List Switch) : List Char → Except Halt (List Switch × Bool)
  | [] => .ok ([], false)
  | letter :: others =>
    if letter = '-' then .error .misuse
    else
      match Switch.find? switches (String.ofList ['-', letter]) with
      | none => .ok ([], true)
      | some switch => do
        if switch.takes = .value || others.head? = some '=' then throw .misuse
        let (more, surplus) ← cluster switches others
        return (switch :: more, surplus)

def isLong (sighting : Sighting) : Bool := "--".toList.isPrefixOf sighting.spelling.toList

/-- The switches that stand in the same word as one that takes nothing. -/
def companions (switches : List Switch) (sighting : Sighting) :
    Except Halt (List Switch × Bool) :=
  match sighting.tail with
  | .none => .ok ([], false)
  | .letters text => if sighting.isLong then .error .misuse else cluster switches text.toList
  | .value _ => .error .misuse

/-- What comes of a switch: what is given, whether some letter had no place, and the words left. -/
structure Step where
  given : List Given
  surplus : Bool
  rest : List (String × Mark)

/-- Give a switch that takes a value, from the same word or from the one that follows. -/
def giveValue (sighting : Sighting) (following : List (String × Mark)) : Except Halt Step := do
  match sighting.tail, following with
  | .value text, _ | .letters text, _ =>
    return ⟨[← effect sighting.switch text], false, following⟩
  | .none, (text, .operand) :: rest => return ⟨[← effect sighting.switch text], false, rest⟩
  | .none, _ => throw .misuse

def give (switches : List Switch) (sighting : Sighting) (following : List (String × Mark)) :
    Except Halt Step := do
  if sighting.switch.takes = .value then giveValue sighting following
  else
    let (others, surplus) ← sighting.companions switches
    let given ← (sighting.switch :: others).mapM fun switch => effect switch ""
    return ⟨given, surplus, following⟩

end Sighting
end CatalogDelta.Command
