import CatalogDelta.Text.Quoted

/-!
# Code points

A text that was written with escapes may hold a unit of a surrogate pair without its partner, for
which there is no character. Such a text is a list of code points. It is an ordinary text if all its
code points are characters, and no two ordinary texts have the same code points.
-/

namespace CatalogDelta

/-- A character, or a unit of a surrogate pair that stands alone. -/
abbrev CodePoint := Fin 0x110000

/-- A text by its code points, which need not be characters. -/
abbrev Points := List CodePoint

namespace CodePoint

theorem toNat_lt (c : Char) : c.toNat < 0x110000 := by
  rcases c.valid with low | ⟨_, high⟩
  · exact Nat.lt_trans low (by decide)
  · exact high

def ofChar (c : Char) : CodePoint := ⟨c.toNat, toNat_lt c⟩

/-- The first unit of a surrogate pair. -/
def isHighUnit (unit : Nat) : Bool := 0xD800 ≤ unit && unit < 0xDC00

def isLowUnit (unit : Nat) : Bool := 0xDC00 ≤ unit && unit < 0xE000

/-- The character that a code point is, unless it is a unit of a pair. -/
def char? (point : CodePoint) : Option Char :=
  if valid : point.val.isValidChar then some (.ofNatAux point valid) else none

/-- No character has the code of a unit of a pair. -/
theorem not_unit_toNat (c : Char) :
    isHighUnit c.toNat = false ∧ isLowUnit c.toNat = false := by
  have outside : c.toNat < 0xD800 ∨ 0xDFFF < c.toNat := c.valid.imp id And.left
  simp only [isHighUnit, isLowUnit, Bool.and_eq_false_iff, decide_eq_false_iff_not]
  omega

@[simp] theorem char?_ofChar (c : Char) : char? (ofChar c) = some c := by
  have valid : (ofChar c).val.isValidChar := c.valid
  unfold char?
  rw [dif_pos valid]
  rfl

theorem ofChar_injective {c d : Char} (same : ofChar c = ofChar d) : c = d :=
  Option.some.inj ((char?_ofChar c).symm.trans ((congrArg char? same).trans (char?_ofChar d)))

theorem eq_ofChar_of_char? {point : CodePoint} {c : Char} (read : char? point = some c) :
    point = ofChar c := by
  by_cases valid : point.val.isValidChar
  · rw [char?, dif_pos valid] at read
    rw [← Option.some.inj read]
    rfl
  · rw [char?, dif_neg valid] at read
    contradiction

/-- A code point in a message: a unit without a character is spelled out. -/
def spelled (write : Char → List Char) (point : CodePoint) : List Char :=
  match point.char? with
  | some c => write c
  | none => ['\\', 'u'] ++ Text.hexField 4 point.val

end CodePoint

namespace Points

def ofText (text : String) : Points := text.toList.map CodePoint.ofChar

/-- The text, if all its code points are characters. -/
def text? (points : Points) : Option String := (points.mapM CodePoint.char?).map String.ofList

def shown (points : Points) : String :=
  String.ofList (points.flatMap (CodePoint.spelled ([·])))

/-- The text between quotation marks. -/
def quoted (points : Points) : String :=
  let single := CodePoint.ofChar '\''
  let mark := if points.contains single && !points.contains (.ofChar '"') then '"' else '\''
  String.ofList (mark :: points.flatMap (CodePoint.spelled (Text.quotedChar mark)) ++ [mark])

@[simp] theorem text?_ofText (text : String) : text? (ofText text) = some text := by
  have read (chars : List Char) :
      (chars.map CodePoint.ofChar).mapM CodePoint.char? = some chars := by
    induction chars with
    | nil => rfl
    | cons c others ih =>
      rw [List.map_cons, List.mapM_cons, CodePoint.char?_ofChar, ih]
      rfl
  unfold text? ofText
  rw [read, Option.map_some, String.ofList_toList]

/-- Only its own code points are read as a text. -/
theorem text?_eq_some_iff {points : Points} {text : String} :
    text? points = some text ↔ points = ofText text := by
  refine ⟨fun read => ?_, fun same => same ▸ text?_ofText text⟩
  obtain ⟨chars, each, rfl⟩ := Option.map_eq_some_iff.mp read
  unfold ofText
  rw [String.toList_ofList]
  clear read
  induction points generalizing chars with
  | nil =>
    obtain rfl := Option.some.inj each
    rfl
  | cons point others ih =>
    rw [List.mapM_cons] at each
    obtain ⟨c, first, each⟩ := Option.bind_eq_some_iff.mp each
    obtain ⟨rest, later, each⟩ := Option.bind_eq_some_iff.mp each
    obtain rfl := Option.some.inj each
    rw [List.map_cons, CodePoint.eq_ofChar_of_char? first, ih rest later]

end Points
end CatalogDelta
