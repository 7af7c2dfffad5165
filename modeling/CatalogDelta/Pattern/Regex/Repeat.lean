import CatalogDelta.Pattern.Regex.Reader

/-!
# Repeats

A repeat follows the node it repeats: a star, a plus, a question mark or counts in braces. Braces
that hold no counts are plain characters.
-/

namespace CatalogDelta.Regex.Repeat

open Reader

/-- How many rounds a repeat may have. -/
structure Rounds where
  least : Nat
  most : Option Nat

/-- A count that is written, if any digits are. -/
def count (digits : List Char) : Reader (Option Nat) := do
  match digits with
  | [] => return none
  | _ =>
    match Decimal.parseInteger digits with
    | .error problem => throw (.unusable (problem.message (String.ofList digits)))
    | .ok value =>
      if countLimit ≤ value.toNat then throw .countTooLarge
      return some value.toNat

/-- Read counts whose opening brace has been taken; nothing is taken if there are none. -/
def counts? : Reader (Option Rounds) := do
  let before ← source
  if before.isAt '\x7d' then return none
  let fuel := before.remaining
  let low ← takeWhile Char.isDigit fuel
  let high ← if ← takeIf ',' then takeWhile Char.isDigit fuel else pure low
  if !(← takeIf '\x7d') then
    seek before
    return none
  let least ← count low
  let most ← count high
  if let some most := most then
    if most < least.getD 0 then
      refuseAt "min repeat greater than max repeat" before.position
  return some ⟨least.getD 0, most⟩

/-- The rounds that a token asks for, if it begins a repeat. -/
def rounds? (token : Char) : Reader (Option Rounds) := do
  match token with
  | '?' => return some ⟨0, some 1⟩
  | '*' => return some ⟨0, none⟩
  | '+' => return some ⟨1, none⟩
  | _ => counts?

/-- Read the sign that says how a repeat chooses, if there is one. -/
def greed : Reader Greed := do
  if ← takeIf '?' then return .reluctant
  if ← takeIf '+' then return .possessive
  return .greedy

/-- Repeat the last of the nodes read so far, which stand last first. -/
def apply (start : Nat) (rounds : Rounds) : List Node → Reader (List Node)
  | [] => refuseAt "nothing to repeat" start
  | last :: earlier => do
    if last.isPlace then refuseAt "nothing to repeat" start
    if last.isRepeat then refuseAt "multiple repeat" start
    return .repeated (← greed) rounds.least rounds.most last :: earlier

end CatalogDelta.Regex.Repeat
