import CatalogDelta.Data.Integer
import CatalogDelta.Pattern.Regex.Node
import CatalogDelta.Pattern.Regex.Source

/-!
# What is known while an expression is read

The reader carries the source, the groups met so far and the modes set for the whole expression.
-/

namespace CatalogDelta.Regex

/-- What is known of a group. -/
structure GroupEntry where
  name : Option String
  /-- How long its match can be; nothing while the group is open. -/
  width : Option Width
  deriving Inhabited

/-- What is known at some point of an expression. -/
structure Progress where
  source : Source
  /-- The groups in the order of their opening; the first has the number one. -/
  groups : List GroupEntry := []
  /-- How many groups there were, the whole included, when the outermost open look behind began. -/
  behindFrom : Option Nat := none
  /-- Groups asked for by number before they were met, with the places of the first question. -/
  asked : List (Nat × Nat) := []
  /-- The letters of the modes set for the whole expression. -/
  modes : List Char := []
  deriving Inhabited

abbrev Reader := StateT Progress (Except Problem)

namespace Reader

def source : Reader Source := return (← get).source

/-- Go to another point of the source. -/
def seek (source : Source) : Reader Unit := modify fun progress => { progress with source }

/-- Refuse the expression; the place lies so many characters before the token ahead. -/
def refuse {α : Type} (message : String) (back : Nat := 0) : Reader α := do
  throw (.malformed message (some ((← source).position - back)))

def refuseAt {α : Type} (message : String) (position : Nat) : Reader α :=
  throw (.malformed message (some position))

/-- Take the token ahead; it is empty at the end. -/
def take : Reader (List Char) := do
  let before ← source
  seek (← before.advance)
  return before.next

/-- Take the token ahead if it is this character. -/
def takeIf (c : Char) : Reader Bool := do
  if (← source).isAt c then
    seek (← (← source).advance)
    return true
  else return false

/-- Take at most so many tokens that are characters satisfying a test. -/
def takeWhile (test : Char → Bool) : Nat → Reader (List Char)
  | 0 => return []
  | count + 1 => do
    match (← source).next with
    | [c] =>
      if test c then
        seek (← (← source).advance)
        return c :: (← takeWhile test count)
      else return []
    | _ => return []

/-- Where the token ahead begins. -/
def position : Reader Nat := return (← source).position

/-- The number of tokens that may still come. -/
def remaining : Reader Nat := return (← source).remaining

/-- Take tokens up to and with a closing character; `found` are the characters so far. -/
def upTo (closing : Char) (what : String) : Nat → List Char → Reader (List Char)
  | 0, _ => refuse ("missing " ++ what)
  | count + 1, found => do
    match ← take with
    | [] =>
      if found.isEmpty then refuse ("missing " ++ what)
      else
        refuse ("missing " ++ closing.toString ++ ", unterminated name") found.length
    | [c] =>
      if c = closing then
        if found.isEmpty then refuse ("missing " ++ what) 1 else return found
      else upTo closing what count (found ++ [c])
    | token => upTo closing what count (found ++ token)

def name (closing : Char) (what : String) : Reader (List Char) := do
  upTo closing what ((← remaining) + 1) []

def groupCount : Reader Nat := return (← get).groups.length + 1

def entry? (index : Nat) : Reader (Option GroupEntry) := do
  let progress ← get
  return if index = 0 then none else progress.groups[index - 1]?

def closedWidth? (index : Nat) : Reader (Option Width) := return (← entry? index).bind (·.width)

def numberOf? (name : String) : Reader (Option Nat) := do
  return ((← get).groups.findIdx? (·.name = some name)).map (· + 1)

/-- Inside a look behind only groups closed before it may be referred to. -/
def checkBehind (index : Nat) : Reader Unit := do
  match (← get).behindFrom with
  | none => return
  | some first =>
    if (← closedWidth? index).isNone then refuse "cannot refer to an open group"
    if first ≤ index then
      refuse "cannot refer to group defined in the same lookbehind subpattern"

def openGroup (name : Option String) : Reader Nat := do
  let index ← groupCount
  if let some name := name then
    if let some earlier ← numberOf? name then
      refuse ("redefinition of group name " ++ Text.quoted name ++ " as group " ++ toString index ++
        "; was group " ++ toString earlier) (name.length + 1)
  modify fun progress => { progress with groups := progress.groups ++ [⟨name, none⟩] }
  return index

def closeGroup (index : Nat) (width : Width) : Reader Unit :=
  modify fun progress =>
    { progress with
      groups := progress.groups.modify (index - 1) fun entry => { entry with width := some width } }

/-- Remember where a group was first asked for by its number. -/
def ask (index position : Nat) : Reader Unit :=
  modify fun progress =>
    if progress.asked.any (·.1 = index) then progress
    else { progress with asked := progress.asked ++ [(index, position)] }

end Reader

def isName (name : List Char) : Bool :=
  match name with
  | [] => false
  | first :: rest => Text.isWord first && !Text.isDigit first && rest.all Text.isWord

/-- A name that cannot name a group is refused. -/
def checkName (name : List Char) : Reader Unit := do
  if !isName name then
    Reader.refuse ("bad character in group name " ++ Text.quoted (String.ofList name))
      (name.length + 1)

/-- The greatest number of groups. -/
def groupLimit : Nat := 1073741823

/-- The least repeat count that is too large. -/
def countLimit : Nat := 4294967295

end CatalogDelta.Regex
