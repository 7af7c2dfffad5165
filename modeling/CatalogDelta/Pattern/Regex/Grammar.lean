import CatalogDelta.Pattern.Regex.Bracket
import CatalogDelta.Pattern.Regex.Flags
import CatalogDelta.Pattern.Regex.Repeat

/-!
# The grammar of regular expressions

An expression is a choice of rows of nodes. Every call of the three readers below that does not end
takes a token or descends from a choice to a row, so twice the number of tokens bounds their depth.
-/

namespace CatalogDelta.Regex

open Reader

namespace Grammar

/-- A blank that is skipped between tokens when blanks are skipped. -/
def isSkipped (c : Char) : Bool := " \t\n\r\x0b\x0c".toList.contains c

def skipLine : Nat → Reader Unit
  | 0 => return
  | fuel + 1 => do
    let token ← take
    if token.isEmpty || token = ['\n'] then return
    skipLine fuel

def skipComment (start : Nat) : Nat → Reader Unit
  | 0 => refuseAt "missing ), unterminated comment" start
  | fuel + 1 => do
    if (← source).atEnd then refuseAt "missing ), unterminated comment" start
    if (← take) = [')'] then return
    skipComment start fuel

def close (start : Nat) : Reader Unit := do
  if !(← takeIf ')') then refuseAt "missing ), unterminated subpattern" start

/-- A reference to a group by its name; `(?P=` has been taken. -/
def namedReference : Reader Node := do
  let letters ← name ')' "group name"
  checkName letters
  let found := String.ofList letters
  match ← numberOf? found with
  | none => refuse ("unknown group name " ++ Text.quoted found) (letters.length + 1)
  | some index =>
    match ← closedWidth? index with
    | none => refuse "cannot refer to an open group" (letters.length + 1)
    | some width =>
      checkBehind index
      return .recall index width

/-- The group that a condition asks about; `(?(` has been taken. -/
def condition : Reader Nat := do
  let letters ← name ')' "group name"
  let found := String.ofList letters
  let back := letters.length + 1
  let index ←
    if isName letters then
      match ← numberOf? found with
      | none => refuse ("unknown group name " ++ Text.quoted found) back
      | some index => pure index
    else
      match Decimal.parseInteger letters with
      | .error _ => refuse ("bad character in group name " ++ Text.quoted found) back
      | .ok value =>
        if value < 0 then refuse ("bad character in group name " ++ Text.quoted found) back
        if value = 0 then refuse "bad group number" back
        let index := value.toNat
        if groupLimit ≤ index then refuse ("invalid group reference " ++ toString index) back
        ask index ((← position) - back)
        pure index
  checkBehind index
  return index

/-- What the opening of a group announces. -/
inductive Opening where
  | capturing (name : Option String)
  | plain (change : Flags.Change)
  | committed
  | look (behind negated : Bool)
  | condition
  | comment
  | recall
  | modes (letters : List Char)

/-- The token that says what a look is; `(?<` has been taken. -/
def behindOpening : Reader Opening := do
  match ← take with
  | [] => refuse "unexpected end of pattern"
  | ['='] => return .look true false
  | ['!'] => return .look true true
  | token => refuse ("unknown extension ?<" ++ String.ofList token) (token.length + 2)

/-- The name of a group or a reference; `(?P` has been taken. -/
def namedOpening : Reader Opening := do
  if ← takeIf '<' then
    let letters ← name '>' "group name"
    checkName letters
    return .capturing (some (String.ofList letters))
  else if ← takeIf '=' then return .recall
  else
    match ← take with
    | [] => refuse "unexpected end of pattern"
    | token => refuse ("unknown extension ?P" ++ String.ofList token) (token.length + 2)

/-- What kind of group begins; the parenthesis has been taken. -/
def opening : Reader Opening := do
  if !(← takeIf '?') then return .capturing none
  match ← take with
  | [] => refuse "unexpected end of pattern"
  | ['P'] => namedOpening
  | [':'] => return .plain {}
  | ['#'] => return .comment
  | ['='] => return .look false false
  | ['!'] => return .look false true
  | ['<'] => behindOpening
  | ['('] => return .condition
  | ['>'] => return .committed
  | token =>
    match token with
    | [c] =>
      if c = '-' || Flags.letters.contains c then
        match ← Flags.read c with
        | .inl letters => return .modes letters
        | .inr change => return .plain change
      else refuse ("unknown extension ?" ++ String.ofList token) (token.length + 1)
    | _ => refuse ("unknown extension ?" ++ String.ofList token) (token.length + 1)

/-- Begin a look behind; the answer says whether it is the outermost one. -/
def enterBehind : Reader Bool := do
  let count ← groupCount
  let outermost := (← get).behindFrom.isNone
  if outermost then modify fun progress => { progress with behindFrom := some count }
  return outermost

def leaveBehind (outermost : Bool) : Reader Unit :=
  if outermost then modify fun progress => { progress with behindFrom := none } else return

def wholeSpaced : Reader Bool := return (← get).modes.contains 'x'

mutual

def choice : Nat → (spaced outermost : Bool) → Reader Node
  | 0, _, _ => refuse "unexpected end of pattern"
  | fuel + 1, spaced, outermost => do
    let first ← row fuel spaced outermost []
    return .choice first (← others fuel spaced outermost)

/-- Read the rows after the first of a choice. -/
def others : Nat → (spaced outermost : Bool) → Reader (List Node)
  | 0, _, _ => return []
  | fuel + 1, spaced, outermost => do
    if ← takeIf '|' then
      let spaced ← if outermost then wholeSpaced else pure spaced
      let next ← row fuel spaced false []
      return next :: (← others fuel spaced outermost)
    else return []

/-- Read the rest of a row; `found` are the nodes before, last first. `first` tells the very first
row of the expression. -/
def row : Nat → (spaced first : Bool) → List Node → Reader Node
  | 0, _, _, _ => refuse "unexpected end of pattern"
  | fuel + 1, spaced, first, found => do
    let start ← position
    match (← source).next with
    | [] | ['|'] | [')'] => return .ofList found.reverse
    | ['\\', letter] =>
      let _ ← take
      row fuel spaced first ((← Escape.node letter) :: found)
    | ['('] =>
      let _ ← take
      match ← opening with
      | .comment =>
        skipComment start ((← remaining) + 1)
        row fuel spaced first found
      | .modes letters =>
        if !first || !found.isEmpty then
          refuseAt "global flags not at the start of the expression" start
        modify fun progress => { progress with modes := progress.modes ++ letters }
        row fuel (← wholeSpaced) first found
      | .recall => row fuel spaced first ((← namedReference) :: found)
      | .condition =>
        let index ← condition
        let yes ← row fuel spaced false []
        let no ←
          if ← takeIf '|' then
            let no ← row fuel spaced false []
            if (← source).isAt '|' then
              refuse "conditional backref with more than two branches"
            pure no
          else pure .empty
        close start
        row fuel spaced first (.whether index yes no :: found)
      | .look behind negated =>
        let outermost ← if behind then enterBehind else pure false
        let body ← choice fuel spaced false
        leaveBehind outermost
        close start
        row fuel spaced first (.look behind negated body :: found)
      | .committed =>
        let body ← choice fuel spaced false
        close start
        row fuel spaced first (.committed body :: found)
      | .plain change =>
        let inner := (change.of 'x').getD spaced
        let body ← choice fuel inner false
        close start
        row fuel spaced first (.group none change.modes body :: found)
      | .capturing name =>
        let index ← openGroup name
        let body ← choice fuel spaced false
        close start
        closeGroup index body.width
        row fuel spaced first (.group (some index) {} body :: found)
    | [c] =>
      let _ ← take
      if spaced && isSkipped c then row fuel spaced first found
      else if spaced && c = '#' then
        skipLine ((← remaining) + 1)
        row fuel spaced first found
      else if c = '[' then row fuel spaced first ((← Bracket.node) :: found)
      else if c = '.' then row fuel spaced first (.anyChar :: found)
      else if c = '^' then row fuel spaced first (.place .lineStart :: found)
      else if c = '$' then row fuel spaced first (.place .lineEnd :: found)
      else if c = '*' || c = '+' || c = '?' || c = '\x7b' then
        match ← Repeat.rounds? c with
        | none => row fuel spaced first (.char c.toNat :: found)
        | some rounds => row fuel spaced first (← Repeat.apply start rounds found)
      else row fuel spaced first (.char c.toNat :: found)
    | _ => return .ofList found.reverse

end

def greedWord : Greed → String
  | .greedy => "MAX_REPEAT"
  | .reluctant => "MIN_REPEAT"
  | .possessive => "POSSESSIVE_REPEAT"

/-- The first part that cannot be used: a look behind of unknown length, or a repeat where repeats
are forbidden. -/
def firstFlaw (plain : Bool) : Node → Option String
  | .empty | .char _ | .anyChar | .set .. | .place _ | .recall .. => none
  | .row first second | .either first second | .whether _ first second =>
    firstFlaw plain first <|> firstFlaw plain second
  | .repeated greed _ _ body =>
    if plain then some ("internal: unsupported template operator " ++ greedWord greed)
    else firstFlaw plain body
  | .group _ _ body | .committed body => firstFlaw plain body
  | .look behind _ body =>
    if behind && countLimit < body.width.least then some "looks too much behind"
    else if behind && body.width.most ≠ some body.width.least then
      some "look-behind requires fixed-width pattern"
    else firstFlaw plain body

def whole : Reader (Node × List Char) := do
  let root ← choice (2 * (← remaining) + 2) false true
  let progress ← get
  if progress.modes.contains 'a' && progress.modes.contains 'u' then
    throw (.unusable "ASCII and UNICODE flags are incompatible")
  if !(← source).atEnd then refuse "unbalanced parenthesis"
  if let some (index, position) := progress.asked.find? (progress.groups.length < ·.1) then
    refuseAt ("invalid group reference " ++ toString index) position
  if let some flaw := firstFlaw (progress.modes.contains 't') root then
    throw (.malformed flaw none)
  return (root, progress.modes)

end Grammar

def parse (expression : List Char) : Except Problem (Node × List Char) := do
  let source ← Source.ahead expression 0
  (Grammar.whole.run { source }).map (·.1)

end CatalogDelta.Regex
