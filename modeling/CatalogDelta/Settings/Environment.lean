import CatalogDelta.Data.Basic

/-!
# References to the environment

A text may refer to variables of the environment, by a name in braces after a dollar sign or by a
plain name after it. A reference to a variable that is set stands for its value; everything else,
references to unset variables included, stays as written. Values are not expanded again.
-/

namespace CatalogDelta

abbrev Environment := OrderedMap String String

namespace Environment

def opening : Char := '\x7b'

def closing : Char := '\x7d'

/-- A plain name may start with this character. -/
def startsName (c : Char) : Bool :=
  ('A' ≤ c && c ≤ 'Z') || ('a' ≤ c && c ≤ 'z') || c = '_'

/-- A plain name may go on with this character. -/
def continuesName (c : Char) : Bool := startsName c || ('0' ≤ c && c ≤ '9')

def bracedName? (text : List Char) : Option (List Char × List Char) :=
  let name := text.takeWhile (· ≠ closing)
  match text.dropWhile (· ≠ closing) with
  | [] => none
  | _ :: rest => if name.isEmpty then none else some (name, rest)

def plainName? : List Char → Option (List Char × List Char)
  | [] => none
  | c :: rest =>
    if startsName c then some (c :: rest.takeWhile continuesName, rest.dropWhile continuesName)
    else none

def nameAfterSign? : List Char → Option (List Char × List Char)
  | [] => none
  | c :: rest => if c = opening then bracedName? rest else plainName? (c :: rest)

theorem bracedName?_shorter {text name rest : List Char}
    (found : bracedName? text = some (name, rest)) : rest.length < text.length := by
  unfold bracedName? at found
  have whole := List.takeWhile_append_dropWhile (p := (· ≠ closing)) (l := text)
  simp only at found
  split at found
  · simp at found
  · rename_i head tail cut
    split at found
    · simp at found
    · simp only [Option.some.injEq, Prod.mk.injEq] at found
      rw [← whole, cut, ← found.2]
      simp
      omega

theorem plainName?_shorter {text name rest : List Char}
    (found : plainName? text = some (name, rest)) : rest.length < text.length := by
  cases text with
  | nil => simp [plainName?] at found
  | cons head tail =>
    simp only [plainName?] at found
    split at found
    · simp only [Option.some.injEq, Prod.mk.injEq] at found
      rw [← found.2]
      have bound := List.dropWhile_suffix continuesName (l := tail) |>.length_le
      simp only [List.length_cons]
      omega
    · simp at found

theorem nameAfterSign?_shorter {text name rest : List Char}
    (found : nameAfterSign? text = some (name, rest)) : rest.length < text.length := by
  cases text with
  | nil => simp [nameAfterSign?] at found
  | cons head tail =>
    simp only [nameAfterSign?] at found
    split at found
    · have shorter := bracedName?_shorter found
      simp only [List.length_cons]
      omega
    · exact plainName?_shorter found

/-- A piece of a text: a single character, or a reference as it is written with its name. -/
inductive Piece where
  | plain (char : Char)
  | reference (written name : List Char)
  deriving Repr, DecidableEq

def divide : List Char → List Piece
  | [] => []
  | c :: rest =>
    if c = '$' then
      match _found : nameAfterSign? rest with
      | some (name, after) =>
        .reference (c :: rest.take (rest.length - after.length)) name :: divide after
      | none => .plain c :: divide rest
    else .plain c :: divide rest
termination_by text => text.length
decreasing_by
  · have shorter := nameAfterSign?_shorter _found
    simp only [List.length_cons]
    omega
  all_goals simp

def pieceText (environment : Environment) : Piece → List Char
  | .plain c => [c]
  | .reference written name =>
    match OrderedMap.get? (String.ofList name) environment with
    | some value => value.toList
    | none => written

def expandText (environment : Environment) (text : String) : String :=
  String.ofList ((divide text.toList).flatMap (pieceText environment))

mutual

/-- Expand the references in every text of a value; the keys of maps are left alone. -/
def expand (environment : Environment) : Data → Data
  | .text content => .text (expandText environment content)
  | .list items => .list (expandItems environment items)
  | .map entries => .map (expandEntries environment entries)
  | other => other

def expandItems (environment : Environment) : List Data → List Data
  | [] => []
  | item :: others => expand environment item :: expandItems environment others

def expandEntries (environment : Environment) : List (String × Data) → List (String × Data)
  | [] => []
  | (key, value) :: others =>
    (key, expand environment value) :: expandEntries environment others

end

end Environment
end CatalogDelta
