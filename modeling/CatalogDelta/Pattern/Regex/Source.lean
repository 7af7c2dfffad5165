import CatalogDelta.Text.Quoted

/-!
# Reading a regular expression token by token

A token is one character, or a backslash with the character after it. The source looks one token
ahead, so a backslash at the very end is found as soon as the token before it is taken.
-/

namespace CatalogDelta.Regex

/-- Why an expression is refused. -/
inductive Problem where
  /-- The expression is malformed, mostly at a known place. -/
  | malformed (message : String) (position : Option Nat)
  /-- A repeat count is beyond the limit. -/
  | countTooLarge
  /-- Parts of the expression contradict each other or hold an unusable numeral. -/
  | unusable (message : String)
  deriving Repr, DecidableEq

/-- The message of a malformed expression; the line is told only where there is more than one. -/
def placedMessage (expression : List Char) (message : String) : Option Nat → String
  | none => message
  | some position =>
    let placed := message ++ " at position " ++ toString position
    if expression.contains '\n' then
      let before := expression.take position
      let line := before.count '\n' + 1
      let column := (before.reverse.takeWhile (· ≠ '\n')).length + 1
      placed ++ " (line " ++ toString line ++ ", column " ++ toString column ++ ")"
    else placed

/-- An expression of which a part has been read. -/
structure Source where
  /-- The token ahead; empty at the end. -/
  next : List Char
  /-- What follows the token ahead. -/
  rest : List Char
  /-- How many characters lie before the rest. -/
  index : Nat
  deriving Repr, Inhabited

namespace Source

/-- Look at the first token of a text that begins at an index. -/
def ahead : List Char → Nat → Except Problem Source
  | [], index => .ok ⟨[], [], index⟩
  | '\\' :: c :: rest, index => .ok ⟨['\\', c], rest, index + 2⟩
  | ['\\'], index => .error (.malformed "bad escape (end of pattern)" (some index))
  | c :: rest, index => .ok ⟨[c], rest, index + 1⟩

def atEnd (source : Source) : Bool := source.next.isEmpty

def advance (source : Source) : Except Problem Source := ahead source.rest source.index

/-- Where the token ahead begins. -/
def position (source : Source) : Nat := source.index - source.next.length

def isAt (source : Source) (c : Char) : Bool := source.next == [c]

/-- How many tokens may still come, at most. -/
def remaining (source : Source) : Nat := source.next.length + source.rest.length

end Source
end CatalogDelta.Regex
