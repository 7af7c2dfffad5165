import CatalogDelta.Pattern.Regex.Escape

/-!
# Character sets in brackets

A bracket lists characters, ranges and kinds of characters; a closing bracket that comes first is
listed like any other character, and so is a hyphen that makes no range.
-/

namespace CatalogDelta.Regex.Bracket

open Reader

def member : List Char → Reader Member
  | ['\\', letter] => Escape.member letter
  | [c] => return .code c.toNat
  | _ => return .code 0

def range (first last : List Char) (low high : Member) : Reader Member := do
  let refusal : Reader Member :=
    refuse ("bad character range " ++ String.ofList first ++ "-" ++ String.ofList last)
      (first.length + 1 + last.length)
  match low, high with
  | .code low, .code high => if high < low then refusal else return .range low high
  | _, _ => refusal

/-- The members up to and with the closing bracket; `found` are those before, last first. -/
def members (opening : Nat) : Nat → List Member → Reader (List Member)
  | 0, _ => refuseAt "unterminated character set" opening
  | fuel + 1, found => do
    let this ← take
    if this.isEmpty then refuseAt "unterminated character set" opening
    if this = [']'] && !found.isEmpty then return found.reverse
    let low ← member this
    if ← takeIf '-' then
      let that ← take
      if that.isEmpty then refuseAt "unterminated character set" opening
      if that = [']'] then return (found.reverse ++ [low, .code '-'.toNat])
      let high ← member that
      members opening fuel ((← range this that low high) :: found)
    else members opening fuel (low :: found)

def node : Reader Node := do
  let opening := (← position) - 1
  let negated ← takeIf '^'
  return .set negated (← members opening ((← remaining) + 1) [])

end CatalogDelta.Regex.Bracket
