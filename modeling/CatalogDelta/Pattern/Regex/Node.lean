import CatalogDelta.Text.Classes
import CatalogDelta.Text.LetterCase
import CatalogDelta.Text.Word

/-!
# Regular expressions as trees

A tree is built of tests for one character, tests for a place between characters, rows, choices,
repeats, groups and looks. `Node.width` bounds the length of what a tree can match.
-/

namespace CatalogDelta.Regex

/-- The kinds of character that have an escape of their own. -/
inductive CharKind where
  | digit
  | blank
  | word
  deriving Repr, DecidableEq

/-- A member of a character set. Characters are given by code, for a pattern may name a code that is
no character. -/
inductive Member where
  | code (value : Nat)
  | range (first last : Nat)
  | kind (negated : Bool) (kind : CharKind)
  deriving Repr, DecidableEq

/-- A test for a place between characters. -/
inductive Place where
  | lineStart
  | lineEnd
  | textStart
  | textEnd
  | wordEdge
  | noWordEdge
  deriving Repr, DecidableEq

/-- How a repeat chooses the number of its rounds: as many as possible, as few as possible, or as
many as possible once and for all. -/
inductive Greed where
  | greedy
  | reluctant
  | possessive
  deriving Repr, DecidableEq

/-- The modes that a match depends on. -/
structure Modes where
  ignoreCase : Bool := false
  multiline : Bool := false
  dotAll : Bool := false
  /-- Kinds and letter case know ASCII only. -/
  ascii : Bool := false
  deriving Repr, DecidableEq, Inhabited

/-- What a group does to the modes inside it: a mode is set, or left as it is. -/
structure ModeChange where
  ignoreCase : Option Bool := none
  multiline : Option Bool := none
  dotAll : Option Bool := none
  ascii : Option Bool := none
  deriving Repr, DecidableEq, Inhabited

def Modes.changed (modes : Modes) (change : ModeChange) : Modes :=
  { ignoreCase := change.ignoreCase.getD modes.ignoreCase
    multiline := change.multiline.getD modes.multiline
    dotAll := change.dotAll.getD modes.dotAll
    ascii := change.ascii.getD modes.ascii }

/-- The least and the greatest length of a match; no greatest length stands for any length. -/
structure Width where
  least : Nat
  most : Option Nat
  deriving Repr, DecidableEq, Inhabited

namespace Width

/-- One match after another. -/
def plus (first second : Width) : Width :=
  ⟨first.least + second.least, do return (← first.most) + (← second.most)⟩

/-- A match of either. -/
def either (first second : Width) : Width :=
  ⟨min first.least second.least, do return max (← first.most) (← second.most)⟩

/-- A match again and again. -/
def times (least : Nat) (most : Option Nat) (width : Width) : Width :=
  ⟨width.least * least,
    if width.most = some 0 then some 0 else do return (← width.most) * (← most)⟩

end Width

/-- A regular expression. -/
inductive Node where
  | empty
  | char (code : Nat)
  | anyChar
  | set (negated : Bool) (members : List Member)
  | place (place : Place)
  | row (first second : Node)
  | either (first second : Node)
  | repeated (greed : Greed) (least : Nat) (most : Option Nat) (body : Node)
  | group (index : Option Nat) (change : ModeChange) (body : Node)
  /-- What a group has matched, again. -/
  | recall (index : Nat) (width : Width)
  /-- One of two, by whether a group has matched. -/
  | whether (index : Nat) (yes no : Node)
  | look (behind negated : Bool) (body : Node)
  /-- The first match of the body and no other. -/
  | committed (body : Node)
  deriving Repr, Inhabited

namespace Node

def ofList : List Node → Node
  | [] => .empty
  | [node] => node
  | node :: others => .row node (ofList others)

/-- A choice among one or more nodes. -/
def choice (first : Node) : List Node → Node
  | [] => first
  | second :: others => .either first (choice second others)

def width : Node → Width
  | .empty | .place _ | .look .. => ⟨0, some 0⟩
  | .char _ | .anyChar | .set .. => ⟨1, some 1⟩
  | .row first second => first.width.plus second.width
  | .either first second => first.width.either second.width
  | .repeated _ least most body => body.width.times least most
  | .group _ _ body | .committed body => body.width
  | .recall _ width => width
  | .whether _ yes no => yes.width.either no.width

/-- The node tests a place and takes no character. -/
def isPlace : Node → Bool
  | .place _ => true
  | _ => false

def isRepeat : Node → Bool
  | .repeated .. => true
  | _ => false

end Node

def CharKind.holds (ascii : Bool) (c : Char) : CharKind → Bool
  | digit => if ascii then c.isDigit else Text.isDigit c
  | blank => if ascii then " \t\n\r\x0b\x0c".toList.contains c else Text.isBlank c
  | word => if ascii then Text.isAsciiWord c else Text.isWord c

def Modes.variants (modes : Modes) (c : Char) : List Nat :=
  if !modes.ignoreCase then [c.toNat]
  else if modes.ascii then [c.toNat, c.toLower.toNat, c.toUpper.toNat]
  else c.toNat :: Text.caseVariants c

def Member.holds (modes : Modes) (c : Char) : Member → Bool
  | code value => (modes.variants c).contains value
  | range first last => (modes.variants c).any fun value => first ≤ value && value ≤ last
  | kind negated which => which.holds modes.ascii c != negated

end CatalogDelta.Regex
