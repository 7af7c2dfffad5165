/-!
# Cutting text at separators

`cutFirst` divides at the first occurrence of a separator, `halves?` at the only one, `pieces` at
every one, and `joined` is the way back from `pieces`.
-/

namespace CatalogDelta.Text

variable {α : Type} [DecidableEq α]

/-- The text before and after the first separator, if there is one. -/
def cutFirst (separator : α) : List α → Option (List α × List α)
  | [] => none
  | c :: rest =>
    if c = separator then some ([], rest)
    else (cutFirst separator rest).map fun (before, after) => (c :: before, after)

/-- The two parts of a text that holds a separator once and something on each side of it. -/
def halves? (separator : α) (text : List α) : Option (List α × List α) :=
  (cutFirst separator text).filter fun (first, second) =>
    !(first.isEmpty || second.isEmpty || second.contains separator)

theorem length_of_cutFirst {separator : α} {text before after : List α}
    (cut : cutFirst separator text = some (before, after)) : after.length < text.length := by
  induction text generalizing before with
  | nil => contradiction
  | cons c rest ih =>
    rw [cutFirst] at cut
    split at cut
    · cases cut
      exact Nat.lt_succ_self _
    · obtain ⟨_, inner, same⟩ := Option.map_eq_some_iff.mp cut
      cases same
      exact Nat.lt_succ_of_lt (ih inner)

/-- The pieces between the separators that satisfy a test; there is always at least one. -/
def piecesAt (isSeparator : Char → Bool) : List Char → List (List Char)
  | [] => [[]]
  | c :: rest =>
    if isSeparator c then [] :: piecesAt isSeparator rest
    else
      match piecesAt isSeparator rest with
      | [] => [[c]]
      | piece :: others => (c :: piece) :: others

def pieces (separator : Char) (text : List Char) : List (List Char) :=
  piecesAt (· = separator) text

/-- Pieces written one after another with a separator between them. -/
def joined (separator : List Char) : List (List Char) → List Char
  | [] => []
  | [piece] => piece
  | piece :: others => piece ++ separator ++ joined separator others

/-- One text occurs in another as a block. -/
def occursIn (part whole : List Char) : Bool :=
  part.isPrefixOf whole ||
    match whole with
    | [] => false
    | _ :: rest => occursIn part rest

theorem pieces_ne_nil (separator : Char) (text : List Char) : pieces separator text ≠ [] := by
  cases text with
  | nil => simp [pieces, piecesAt]
  | cons c rest =>
    simp only [pieces, piecesAt]
    split
    · simp
    · split <;> simp

end CatalogDelta.Text
