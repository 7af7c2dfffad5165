import CatalogDelta.Pattern.Glob
import Mathlib.Data.List.Basic

/-!
# What is inside a bracket

Read from left to right, the inside of a bracket is a row of ranges and single characters: a
character with a hyphen and another character after it begins a range. Ranges that run backwards
stand for nothing. `Glob.bracketToken` gets there by way of the pieces between the hyphens; main
statement: it gives the set that is read (`accepts_bracketToken`).
-/

namespace CatalogDelta

/-- The item does not run backwards. -/
def SetItem.isForward : SetItem → Bool
  | single _ => true
  | range first last => !decide (last < first)

/-- The character that an item begins with. -/
def SetItem.first : SetItem → Char
  | single c => c
  | range first _ => first

namespace Glob

/-- The items of a row of characters, read from left to right; a range is read wherever one can
be. -/
def setItems : List Char → List SetItem
  | first :: '-' :: last :: rest => .range first last :: setItems rest
  | c :: rest => .single c :: setItems rest
  | [] => []

/-- An exclamation mark that comes first is no end of a range. -/
def insideItems : List Char → List SetItem
  | '!' :: body => .single '!' :: setItems body
  | inside => setItems inside

/-- A row of items as a set: whether it is negated, and its items. An exclamation mark that comes
first negates, also where it would have begun a range. -/
def signed : List SetItem → Bool × List SetItem
  | .single '!' :: items => (true, items)
  | .range '!' last :: items => (true, .single '-' :: .single last :: items)
  | items => (false, items)

/-- The inside of a bracket as a set. Ranges that run backwards are left out. -/
def readSet (inside : List Char) : Bool × List SetItem :=
  signed ((insideItems inside).filter (·.isForward))

/-! ## Pieces -/

/-- Characters before the first of some pieces. -/
def attach (front : List Char) : List (List Char) → List (List Char)
  | [] => [front]
  | piece :: others => (front ++ piece) :: others

/-- The pieces that write a row of items: a range ends one piece and begins the next. -/
def piecesOf : List SetItem → List (List Char)
  | [] => [[]]
  | .single c :: items => attach [c] (piecesOf items)
  | .range first last :: items => [first] :: attach [last] (piecesOf items)

theorem attach_append (front more : List Char) (pieces : List (List Char)) :
    attach (front ++ more) pieces = attach front (attach more pieces) := by
  cases pieces with
  | nil => rfl
  | cons piece others => exact congrArg (· :: others) (List.append_assoc front more piece)

/-- What is written begins as the first item does. -/
theorem piecesOf_cons (item : SetItem) (items : List SetItem) :
    ∃ piece others, piecesOf (item :: items) = (item.first :: piece) :: others := by
  cases item with
  | range first last => exact ⟨[], _, rfl⟩
  | single c =>
    rw [piecesOf]
    cases piecesOf items with
    | nil => exact ⟨[], [], rfl⟩
    | cons piece others => exact ⟨piece, others, rfl⟩

theorem exists_piecesOf (items : List SetItem) :
    ∃ piece others, piecesOf items = piece :: others := by
  cases items with
  | nil => exact ⟨[], [], rfl⟩
  | cons item items =>
    obtain ⟨piece, others, written⟩ := piecesOf_cons item items
    exact ⟨_, others, written⟩

theorem pieceItems_attach (items : List SetItem) (c : Char) :
    pieceItems (attach [c] (piecesOf items)) = .single c :: pieceItems (piecesOf items) := by
  cases items with
  | nil => simp only [piecesOf, attach, pieceItems, List.append_nil, List.map_cons, List.map_nil]
  | cons item items =>
    obtain ⟨piece, others, written⟩ := piecesOf_cons item items
    rw [written]
    cases others with
    | nil => simp only [attach, pieceItems, List.cons_append, List.nil_append, List.map_cons]
    | cons next others =>
      change pieceItems ((c :: item.first :: piece) :: next :: others) = _
      rw [pieceItems.eq_def, pieceItems.eq_def ((item.first :: piece) :: next :: others)]
      simp only [List.getLast?_cons_cons, List.dropLast_cons_cons, List.map_cons, List.cons_append]
      split <;> rfl

/-- The items of a row come back from its pieces. -/
theorem pieceItems_piecesOf (items : List SetItem) : pieceItems (piecesOf items) = items := by
  induction items with
  | nil => simp only [piecesOf, pieceItems, List.map_nil]
  | cons item items ih =>
    cases item with
    | single c => rw [piecesOf, pieceItems_attach, ih]
    | range first last =>
      rw [piecesOf]
      obtain ⟨piece, others, written⟩ := exists_piecesOf items
      rw [written] at ih ⊢
      simp [attach, pieceItems, ih]

/-- What is joined behind a character stays behind it. -/
theorem mergeBackward_cons (c d : Char) (piece : List Char) (others : List (List Char)) :
    mergeBackward (c :: d :: piece) others = attach [c] (mergeBackward (d :: piece) others) := by
  cases others with
  | nil => rfl
  | cons next others =>
    simp only [mergeBackward, List.getLast?_cons_cons, List.dropLast_cons_cons]
    split
    · split <;> rfl
    · rfl

theorem dropBackward_attach (items : List SetItem) (c : Char) :
    dropBackward (attach [c] (piecesOf items)) = attach [c] (dropBackward (piecesOf items)) := by
  cases items with
  | nil => rfl
  | cons item items =>
    obtain ⟨piece, others, written⟩ := piecesOf_cons item items
    rw [written]
    exact mergeBackward_cons c item.first piece _

/-- Joining the pieces of ranges that run backwards leaves the other items. -/
theorem dropBackward_piecesOf (items : List SetItem) :
    dropBackward (piecesOf items) = piecesOf (items.filter (·.isForward)) := by
  induction items with
  | nil => rfl
  | cons item items ih =>
    cases item with
    | single c =>
      rw [List.filter_cons_of_pos rfl, piecesOf, piecesOf, dropBackward_attach, ih]
    | range first last =>
      rw [piecesOf, dropBackward, dropBackward_attach, ih]
      obtain ⟨piece, others, written⟩ := exists_piecesOf (items.filter (·.isForward))
      have joined : mergeBackward [first] ((last :: piece) :: others) =
          if last < first then piece :: others else [first] :: (last :: piece) :: others := rfl
      by_cases backward : last < first
      · have dropped : ¬ (SetItem.range first last).isForward = true := by
          simp only [SetItem.isForward, backward, decide_true, Bool.not_true, Bool.false_eq_true,
            not_false_eq_true]
        rw [List.filter_cons_of_neg dropped, written]
        exact joined.trans (if_pos backward)
      · have kept : (SetItem.range first last).isForward = true := by
          simp only [SetItem.isForward, backward, decide_false, Bool.not_false]
        rw [List.filter_cons_of_pos kept, piecesOf, written]
        exact joined.trans (if_neg backward)

/-! ## Cutting at the hyphens -/

theorem exists_rangePieces (skip : Nat) (last : Char) (front text : List Char) :
    ∃ c piece others, rangePieces skip (last :: front) text = (c :: piece) :: others := by
  have filled : ∃ c piece, (last :: front).reverse = c :: piece :=
    List.exists_cons_of_ne_nil (by simp)
  induction text generalizing skip last front with
  | nil =>
    obtain ⟨c, piece, same⟩ := filled
    exact ⟨c, piece, [], by rw [rangePieces, same]⟩
  | cons d rest ih =>
    have further (skip : Nat) := ih skip d (last :: front) (List.exists_cons_of_ne_nil (by simp))
    cases skip with
    | succ skip => exact further skip
    | zero =>
      rw [rangePieces]
      split
      · obtain ⟨c, piece, same⟩ := filled
        exact ⟨c, piece, _, by rw [same]⟩
      · exact further 0

theorem closePieces_cons (first : List Char) (c : Char) (piece : List Char)
    (others : List (List Char)) :
    closePieces (first :: (c :: piece) :: others) = first :: closePieces ((c :: piece) :: others) := by
  cases others <;> rfl

theorem setItems_cons_of_ne {c : Char} (plain : c ≠ '-') (last : Char) (rest : List Char) :
    setItems (last :: c :: rest) = .single last :: setItems (c :: rest) := by
  rw [setItems]
  rintro _ _ ⟨rfl⟩
  exact plain rfl

/-- Cutting at the hyphens goes on from the character before, which may begin a range. -/
theorem closePieces_rangePieces (last : Char) (front text : List Char) :
    closePieces (rangePieces 0 (last :: front) text) =
      attach front.reverse (piecesOf (setItems (last :: text))) := by
  induction size : text.length using Nat.strongRecOn generalizing last front text with
  | ind size ih =>
    subst size
    cases text with
    | nil => simp [rangePieces, closePieces, setItems, piecesOf, attach]
    | cons c rest =>
      by_cases hyphen : c = '-'
      · subst hyphen
        match rest with
        | [] => simp [rangePieces, closePieces, setItems, piecesOf, attach]
        | [ending] => simp [rangePieces, closePieces, setItems, piecesOf, attach]
        | ending :: next :: rest =>
          -- The two characters after a hyphen that makes a range are no such hyphen.
          have later := ih rest.length (by simp only [List.length_cons]; omega) next [ending] rest
            rfl
          obtain ⟨c, piece, others, cut⟩ := exists_rangePieces 0 next [ending] rest
          change closePieces ((last :: front).reverse :: rangePieces 0 [next, ending] rest) = _
          rw [cut, closePieces_cons, ← cut, later, setItems, piecesOf, List.reverse_cons]
          rfl
      · rw [rangePieces, if_neg hyphen, ih rest.length (by simp) c (last :: front) rest rfl,
          setItems_cons_of_ne hyphen, piecesOf, List.reverse_cons, attach_append]

/-- A first character is no hyphen that makes a range. -/
theorem closePieces_body (body : List Char) :
    closePieces (rangePieces 1 [] body) = piecesOf (setItems body) := by
  cases body with
  | nil => simp only [rangePieces, closePieces, List.reverse_nil, setItems, piecesOf]
  | cons c rest =>
    change closePieces (rangePieces 0 [c] rest) = _
    rw [closePieces_rangePieces]
    obtain ⟨piece, others, written⟩ := exists_piecesOf (setItems (c :: rest))
    rw [written]
    rfl

/-- The pieces of the inside of a bracket write its items. -/
theorem closePieces_inside (inside : List Char) :
    closePieces (rangePieces (if inside.head? = some '!' then 2 else 1) [] inside) =
      piecesOf (insideItems inside) := by
  by_cases marked : inside.head? = some '!'
  · obtain ⟨body, rfl⟩ := List.head?_eq_some_iff.mp marked
    rw [if_pos marked, insideItems, piecesOf]
    cases body with
    | nil => simp only [rangePieces, closePieces, setItems, piecesOf, attach, List.reverse_cons,
        List.reverse_nil, List.append_nil]; rfl
    | cons c rest =>
      change closePieces (rangePieces 0 [c, '!'] rest) = _
      rw [closePieces_rangePieces]
      rfl
  · rw [if_neg marked, closePieces_body, insideItems]
    rintro body rfl
    exact marked rfl

theorem setToken_of_ne {c : Char} (plain : c ≠ '!') (piece : List Char)
    (others : List (List Char)) :
    setToken ((c :: piece) :: others) = .set false (pieceItems ((c :: piece) :: others)) := by
  rw [setToken]
  · rintro ⟨⟩
    exact plain rfl
  · rintro _ ⟨⟩
    exact plain rfl
  · rintro _ _ ⟨⟩
    exact plain rfl

theorem signed_of_ne {item : SetItem} (plain : item.first ≠ '!') (items : List SetItem) :
    signed (item :: items) = (false, item :: items) := by
  rw [signed]
  · rintro _ ⟨⟩
    exact plain rfl
  · rintro _ _ ⟨⟩
    exact plain rfl

/-- The pieces of a row of items write its set. -/
theorem accepts_setToken (rule : CaseRule) (items : List SetItem) (c : Char) :
    GlobToken.accepts rule c (setToken (piecesOf items)) =
      ((signed items).2.any (·.holds rule c) != (signed items).1) := by
  cases items with
  | nil => simp only [piecesOf, setToken, pieceItems, List.map_nil, GlobToken.accepts, signed]
  | cons item items =>
    have rest := pieceItems_piecesOf items
    by_cases marked : item.first = '!'
    · cases item with
      | single d =>
        obtain rfl : d = '!' := marked
        cases items with
        | nil => rfl
        | cons next items =>
          rw [piecesOf]
          obtain ⟨piece, others, written⟩ := piecesOf_cons next items
          rw [written] at rest ⊢
          change GlobToken.accepts rule c
            (.set true (pieceItems ((next.first :: piece) :: others))) = _
          rw [rest]
          rfl
      | range first last =>
        obtain rfl : first = '!' := marked
        obtain ⟨piece, others, written⟩ := exists_piecesOf items
        have attached := pieceItems_attach items last
        rw [rest] at attached
        rw [piecesOf]
        rw [written] at attached ⊢
        change GlobToken.accepts rule c
          (.set true (.single '-' :: pieceItems (attach [last] (piece :: others)))) = _
        rw [attached]
        rfl
    · obtain ⟨piece, others, written⟩ := piecesOf_cons item items
      have all := pieceItems_piecesOf (item :: items)
      rw [written] at all ⊢
      rw [setToken_of_ne marked, all, signed_of_ne marked]
      rfl

/-- **A bracket gives the set that is read.** -/
theorem accepts_bracketToken (rule : CaseRule) (inside : List Char) (c : Char) :
    GlobToken.accepts rule c (bracketToken inside) =
      ((readSet inside).2.any (·.holds rule c) != (readSet inside).1) := by
  unfold bracketToken
  dsimp only
  rw [closePieces_inside, dropBackward_piecesOf]
  exact accepts_setToken rule _ c

end Glob
end CatalogDelta
