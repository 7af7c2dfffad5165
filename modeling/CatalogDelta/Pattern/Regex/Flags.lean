import CatalogDelta.Pattern.Regex.Reader

/-!
# Mode letters

Modes are set by letters, for the whole expression at its start or for one group: `i` ignores letter
case, `m` lets line places hold at every line, `s` lets a point stand for a line end too, `x` skips
blanks and comments, `a` and `u` choose the alphabet and `t` forbids repeats.
-/

namespace CatalogDelta.Regex.Flags

open Reader

def letters : List Char := ['i', 'L', 'm', 's', 'x', 'a', 't', 'u']

/-- The letters of which only one may be set. -/
def alphabets : List Char := ['a', 'u', 'L']

/-- What is said about a token that is no mode letter. -/
def refuseToken {α : Type} (token : List Char) (otherwise : String) : Reader α :=
  let unknown :=
    match token with
    | [c] => Text.isWord c && !Text.isDigit c && c != '_'
    | _ => false
  refuse (if unknown then "unknown flag" else otherwise) token.length

/-- The letters set, up to the token that ends them; `letter` has been taken. -/
def added : Nat → Char → List Char → Reader (List Char × Char)
  | 0, _, _ => refuse "missing -, : or )"
  | fuel + 1, letter, found => do
    if letter = 'L' then refuse "bad inline flags: cannot use 'L' flag with a str pattern"
    let found := found ++ [letter]
    if alphabets.contains letter && found.any (fun c => alphabets.contains c && c != letter) then
      refuse "bad inline flags: flags 'a', 'u' and 'L' are incompatible"
    match ← take with
    | [] => refuse "missing -, : or )"
    | [c] =>
      if c = ')' || c = '-' || c = ':' then return (found, c)
      else if letters.contains c then added fuel c found
      else refuseToken [c] "missing -, : or )"
    | token => refuseToken token "missing -, : or )"

/-- The letters unset, up to the colon that ends them; `letter` has been taken. -/
def removed : Nat → Char → List Char → Reader (List Char)
  | 0, _, _ => refuse "missing :"
  | fuel + 1, letter, found => do
    if alphabets.contains letter then
      refuse "bad inline flags: cannot turn off flags 'a', 'u' and 'L'"
    let found := found ++ [letter]
    match ← take with
    | [] => refuse "missing :"
    | [c] =>
      if c = ':' then return found
      else if letters.contains c then removed fuel c found
      else refuseToken [c] "missing :"
    | token => refuseToken token "missing :"

/-- The letters set and unset for a group. -/
structure Change where
  on : List Char := []
  off : List Char := []

/-- Read the mode letters whose first token has been taken: those of the whole expression, or those
of a group. -/
def read (first : Char) : Reader (List Char ⊕ Change) := do
  let fuel ← remaining
  let (on, ending) ← if first = '-' then pure ([], '-') else added (fuel + 1) first []
  if ending = ')' then return .inl on
  if on.contains 't' then refuse "bad inline flags: cannot turn on global flag" 1
  let off ←
    if ending = '-' then
      match ← take with
      | [] => refuse "missing flag"
      | [c] =>
        if letters.contains c then removed (fuel + 1) c [] else refuseToken [c] "missing flag"
      | token => refuseToken token "missing flag"
    else pure []
  if off.contains 't' then refuse "bad inline flags: cannot turn off global flag" 1
  if on.any off.contains then refuse "bad inline flags: flag turned on and off" 1
  return .inr ⟨on, off⟩

def Change.of (change : Change) (letter : Char) : Option Bool :=
  if change.off.contains letter then some false
  else if change.on.contains letter then some true
  else none

def Change.modes (change : Change) : ModeChange :=
  { ignoreCase := change.of 'i'
    multiline := change.of 'm'
    dotAll := change.of 's'
    ascii :=
      if change.on.contains 'a' then some true
      else if change.on.contains 'u' then some false
      else none }

end CatalogDelta.Regex.Flags
