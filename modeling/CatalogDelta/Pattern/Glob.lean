import CatalogDelta.Text.LetterCase
import CatalogDelta.Text.Pieces

/-!
# Globs

A glob is a row of tokens: a star stands for any text, a question mark for any one character, a
bracket for a character in a set or not in it, and every other character for itself. A bracket that
is not closed stands for itself too.
-/

namespace CatalogDelta

/-- A member of a character set. -/
inductive SetItem where
  | single (c : Char)
  | range (first last : Char)
  deriving Repr, DecidableEq

/-- One token of a glob. -/
inductive GlobToken where
  | star
  | anyChar
  | exact (c : Char)
  | set (negated : Bool) (items : List SetItem)
  deriving Repr, DecidableEq

/-- Whether letter case counts when characters are compared. -/
inductive CaseRule where
  | exact
  | ignored
  deriving Repr, DecidableEq

def CaseRule.alike : CaseRule → Char → Char → Bool
  | .exact, a, b => a == b
  | .ignored, a, b => a == b || Text.fold a == Text.fold b

def CaseRule.inRange (rule : CaseRule) (first last c : Char) : Bool :=
  match rule with
  | .exact => first.toNat ≤ c.toNat && c.toNat ≤ last.toNat
  | .ignored =>
    (first.toNat ≤ c.toNat && c.toNat ≤ last.toNat) ||
      (Text.caseVariants c).any fun code => first.toNat ≤ code && code ≤ last.toNat

def SetItem.holds (rule : CaseRule) (c : Char) : SetItem → Bool
  | single d => rule.alike c d
  | range first last => rule.inRange first last c

namespace Glob

/-- Cut the inside of a bracket at the hyphens that make ranges. A hyphen makes a range if a
character stands before it and it is not among the two characters after the last such hyphen;
`skip` counts the characters that cannot be such a hyphen, and `current` is the piece so far,
reversed. -/
def rangePieces : Nat → List Char → List Char → List (List Char)
  | _, current, [] => [current.reverse]
  | 0, current, c :: rest =>
    if c = '-' then current.reverse :: rangePieces 2 [] rest
    else rangePieces 0 (c :: current) rest
  | skip + 1, current, c :: rest => rangePieces skip (c :: current) rest

/-- A hyphen at the very end makes no range but belongs to the piece before it. -/
def closePieces : List (List Char) → List (List Char)
  | [] => []
  | [piece] => [piece]
  | [piece, []] => [piece ++ ['-']]
  | piece :: others => piece :: closePieces others

/-- Join two pieces whose range would run backwards, dropping both its ends. -/
def mergeBackward (piece : List Char) : List (List Char) → List (List Char)
  | [] => [piece]
  | next :: others =>
    match piece.getLast?, next with
    | some last, first :: tail =>
      if first < last then (piece.dropLast ++ tail) :: others else piece :: next :: others
    | _, _ => piece :: next :: others

def dropBackward : List (List Char) → List (List Char)
  | [] => []
  | piece :: others => mergeBackward piece (dropBackward others)

/-- The items of the pieces: a range from the end of each piece to the start of the next, and the
remaining characters one by one. -/
def pieceItems : List (List Char) → List SetItem
  | [] => []
  | [piece] => piece.map .single
  | piece :: next :: others =>
    match piece.getLast?, next with
    | some first, last :: tail =>
      piece.dropLast.map .single ++ .range first last :: pieceItems (tail :: others)
    | _, _ => piece.map .single ++ pieceItems (next :: others)
termination_by pieces => pieces.length

/-- The set that pieces write; an exclamation mark that comes first negates it. -/
def setToken : List (List Char) → GlobToken
  | [['!']] => .anyChar
  -- A hyphen that comes first after the mark makes no range.
  | ['!'] :: others => .set true (.single '-' :: pieceItems others)
  | ('!' :: rest) :: others => .set true (pieceItems (rest :: others))
  | pieces => .set false (pieceItems pieces)

def bracketToken (inside : List Char) : GlobToken :=
  let lead := if inside.head? = some '!' then 2 else 1
  setToken (dropBackward (closePieces (rangePieces lead [] inside)))

/-- A character, what stands between it and the first closing bracket behind it, and what follows. -/
def closed? : List Char → Option (List Char × List Char)
  | [] => none
  | first :: tail => (Text.cutFirst ']' tail).map fun (more, after) => (first :: more, after)

/-- The inside of a bracket and what follows it; a closing bracket that comes first, or first after
an exclamation mark, is part of the inside. -/
def bracket? : List Char → Option (List Char × List Char)
  | '!' :: body => (closed? body).map fun (inside, after) => ('!' :: inside, after)
  | body => closed? body

theorem closed?_shorter {text inside after : List Char}
    (found : closed? text = some (inside, after)) : after.length < text.length := by
  cases text with
  | nil => contradiction
  | cons first tail =>
    obtain ⟨⟨more, _⟩, cut, same⟩ := Option.map_eq_some_iff.mp found
    cases same
    exact Nat.lt_succ_of_lt (Text.length_of_cutFirst cut)

theorem bracket?_shorter {text inside after : List Char}
    (found : bracket? text = some (inside, after)) : after.length < text.length := by
  unfold bracket? at found
  split at found
  · obtain ⟨_, closed, same⟩ := Option.map_eq_some_iff.mp found
    cases same
    exact Nat.lt_succ_of_lt (closed?_shorter closed)
  · exact closed?_shorter found

def tokens : List Char → List GlobToken
  | [] => []
  | '*' :: rest => .star :: tokens rest
  | '?' :: rest => .anyChar :: tokens rest
  | '[' :: rest =>
    match _closed : bracket? rest with
    | none => .exact '[' :: tokens rest
    | some (inside, after) => bracketToken inside :: tokens after
  | c :: rest => .exact c :: tokens rest
termination_by text => text.length
decreasing_by
  all_goals simp_wf
  have shorter := bracket?_shorter _closed
  omega

/-- A token other than a star stands for a character. -/
def GlobToken.accepts (rule : CaseRule) (c : Char) : GlobToken → Bool
  | .star => false
  | .anyChar => true
  | .exact d => rule.alike c d
  | .set negated items => items.any (·.holds rule c) != negated

def someTail (test : List Char → Bool) : List Char → Bool
  | [] => test []
  | c :: rest => test (c :: rest) || someTail test rest

def covers (rule : CaseRule) : List GlobToken → List Char → Bool
  | [], text => text.isEmpty
  | .star :: others, text => someTail (covers rule others) text
  | token :: others, text =>
    match text with
    | [] => false
    | c :: rest => GlobToken.accepts rule c token && covers rule others rest

end Glob
end CatalogDelta
