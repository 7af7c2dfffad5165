import CatalogDelta.Pattern.Regex.Grammar

/-!
# Matching

A node is matched at a spot of the text and passes every spot at which it can end, in order of
preference, to what follows; the first spot accepted there is the answer. A repeat that takes no
character is not tried again.
-/

namespace CatalogDelta.Regex

/-- A compiled expression. -/
structure Expression where
  root : Node
  modes : Modes
  deriving Inhabited

/-- Where matching stands, and the spans that groups have matched, latest first. -/
structure Spot where
  position : Nat
  groups : List (Nat × Nat × Nat)
  deriving Inhabited

namespace Spot

def span? (spot : Spot) (index : Nat) : Option (Nat × Nat) :=
  spot.groups.lookup index

/-- The spot after one more character. -/
def next (spot : Spot) : Spot := { spot with position := spot.position + 1 }

end Spot

/-- What follows a node: it accepts a spot or not. -/
abbrev Onward := Spot → Option Spot

def isWordAt (text : Array Char) (ascii : Bool) (position : Nat) : Bool :=
  match text[position]? with
  | none => false
  | some c => CharKind.holds ascii c .word

def isWordEdge (text : Array Char) (ascii : Bool) (position : Nat) : Bool :=
  let before := 0 < position && isWordAt text ascii (position - 1)
  before != isWordAt text ascii position

def Place.holds (text : Array Char) (modes : Modes) (position : Nat) : Place → Bool
  | textStart => position = 0
  | textEnd => position = text.size
  | lineStart =>
    position = 0 || (modes.multiline && text[position - 1]? == some '\n')
  | lineEnd =>
    position = text.size ||
      (text[position]? == some '\n' && (modes.multiline || position + 1 = text.size))
  | wordEdge => text.size ≠ 0 && isWordEdge text modes.ascii position
  | noWordEdge => text.size ≠ 0 && !isWordEdge text modes.ascii position

def oneChar (text : Array Char) (test : Char → Bool) (spot : Spot) (onward : Onward) :
    Option Spot :=
  match text[spot.position]? with
  | some c => if test c then onward spot.next else none
  | none => none

/-- The characters of an earlier span, again. -/
def again (text : Array Char) (modes : Modes) (spot : Spot) (first last : Nat) : Option Spot :=
  let alike (a b : Char) : Bool :=
    a == b || (modes.ignoreCase &&
      if modes.ascii then a.toLower == b.toLower else Text.lower a == Text.lower b)
  let earlier := (text.extract first last).toList
  let here := (text.extract spot.position (spot.position + (last - first))).toList
  if here.length = earlier.length && (earlier.zip here).all fun (a, b) => alike a b then
    some { spot with position := spot.position + (last - first) }
  else none

/-- Rounds of a body that gives way to what follows it. Up to the least number the rounds are
forced; after it, a round must not begin where the round before it began. -/
def rounds (body : Spot → Onward → Option Spot) (reluctant : Bool) (least : Nat)
    (most : Option Nat) (onward : Onward) : Nat → Nat → Option Nat → Spot → Option Spot
  | 0, _, _, _ => none
  | fuel + 1, done, began, spot =>
    if done < least then body spot (rounds body reluctant least most onward fuel (done + 1) began)
    else
      let mayGoOn := most.all (done < ·) && began ≠ some spot.position
      let more (_ : Unit) :=
        if mayGoOn then
          body spot (rounds body reluctant least most onward fuel (done + 1) (some spot.position))
        else none
      if reluctant then (onward spot).orElse more
      else (more ()).orElse fun _ => onward spot

/-- Rounds of a body that are never taken back. -/
def keptRounds (body : Spot → Onward → Option Spot) (least : Nat) (most : Option Nat) :
    Nat → Nat → Option Nat → Spot → Option Spot
  | 0, _, _, _ => none
  | fuel + 1, done, began, spot =>
    if done < least then
      match body spot some with
      | none => none
      | some after => keptRounds body least most fuel (done + 1) began after
    else if most.all (done < ·) && began ≠ some spot.position then
      match body spot some with
      | none => some spot
      | some after => keptRounds body least most fuel (done + 1) (some spot.position) after
    else some spot

def Node.run (text : Array Char) : Node → Modes → Spot → Onward → Option Spot
  | .empty, _, spot, onward => onward spot
  | .char code, modes, spot, onward =>
    oneChar text (fun c => (Member.code code).holds modes c) spot onward
  | .anyChar, modes, spot, onward =>
    oneChar text (fun c => modes.dotAll || c != '\n') spot onward
  | .set negated members, modes, spot, onward =>
    oneChar text (fun c => members.any (·.holds modes c) != negated) spot onward
  | .place test, modes, spot, onward =>
    if test.holds text modes spot.position then onward spot else none
  | .row first second, modes, spot, onward =>
    run text first modes spot fun between => run text second modes between onward
  | .either first second, modes, spot, onward =>
    (run text first modes spot onward).orElse fun _ => run text second modes spot onward
  | .repeated greed least most body, modes, spot, onward =>
    let fuel := least + text.size + 3
    match greed with
    | .possessive =>
      (keptRounds (fun spot onward => run text body modes spot onward) least most fuel 0 none
        spot).bind onward
    | greed =>
      rounds (fun spot onward => run text body modes spot onward) (greed = .reluctant) least most
        onward fuel 0 none spot
  | .group index change body, modes, spot, onward =>
    run text body (modes.changed change) spot fun after =>
      match index with
      | none => onward after
      | some index =>
        onward { after with groups := (index, spot.position, after.position) :: after.groups }
  | .recall index _, modes, spot, onward =>
    match spot.span? index with
    | none => none
    | some (first, last) => (again text modes spot first last).bind onward
  | .whether index yes no, modes, spot, onward =>
    if (spot.span? index).isSome then run text yes modes spot onward
    else run text no modes spot onward
  | .look behind negated body, modes, spot, onward =>
    let distance := if behind then body.width.least else 0
    let seen :=
      if spot.position < distance then none
      else run text body modes { spot with position := spot.position - distance } some
    match seen with
    | some found => if negated then none else onward { spot with groups := found.groups }
    | none => if negated then onward spot else none
  | .committed body, modes, spot, onward => (run text body modes spot some).bind onward

namespace Expression

def compile (text : List Char) (ignoreCase : Bool) : Except Problem Expression := do
  let (root, letters) ← parse text
  return ⟨root,
    { ignoreCase := ignoreCase || letters.contains 'i'
      multiline := letters.contains 'm'
      dotAll := letters.contains 's'
      ascii := letters.contains 'a' }⟩

def covers (expression : Expression) (text : List Char) : Bool :=
  let chars := text.toArray
  (expression.root.run chars expression.modes ⟨0, []⟩ fun spot =>
    if spot.position = chars.size then some spot else none).isSome

end Expression
end CatalogDelta.Regex
