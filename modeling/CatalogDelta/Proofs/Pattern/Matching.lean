import CatalogDelta.Proofs.Pattern.Bracket
import CatalogDelta.Proofs.Text.Pieces
import CatalogDelta.Proofs.Text.PlainLetter

/-!
# What globs match

`Glob.Matches` says directly of the text of a glob which names it matches: a star matches any text, a
question mark any one character, a bracket a character by its set, and every other character,
an opening bracket that is not closed among them, itself. Main statement: on plain text the tokens
of a glob cover just these names (`Glob.covers_tokens_iff`).
-/

namespace CatalogDelta

/-- Two plain characters are the same, up to letter case where it does not count. -/
def CaseRule.Same (rule : CaseRule) (d c : Char) : Prop :=
  d = c ∨ rule = .ignored ∧ d.toLower = c.toLower

namespace SetItem

/-- The item has a character that is the same. -/
def Has (rule : CaseRule) (c : Char) : SetItem → Prop
  | single d => rule.Same d c
  | range first last => ∃ d, first ≤ d ∧ d ≤ last ∧ rule.Same d c

/-- The item is written in plain characters. -/
def IsPlain : SetItem → Prop
  | single c => c.toNat < 0x80
  | range first last => first.toNat < 0x80 ∧ last.toNat < 0x80

end SetItem

namespace Glob

variable {rule : CaseRule}

/-- The character is in the set of a bracket, or not in it if the set is negated. -/
def Belongs (rule : CaseRule) (inside : List Char) (c : Char) : Prop :=
  (∃ item ∈ (readSet inside).2, item.Has rule c) ↔ (readSet inside).1 = false

/-- A bracket is closed by the first closing bracket behind its first character; an exclamation
mark before that character does not count. -/
def Closes (text inside after : List Char) : Prop :=
  ∃ mark first more, inside = mark ++ first :: more ∧ text = inside ++ ']' :: after ∧
    ']' ∉ more ∧ (mark = ['!'] ∨ mark = [] ∧ first ≠ '!')

/-- The text of a glob matches a name. -/
inductive Matches (rule : CaseRule) : List Char → List Char → Prop
  | nil : Matches rule [] []
  | star {glob name : List Char} (skipped : List Char) (rest : Matches rule glob name) :
    Matches rule ('*' :: glob) (skipped ++ name)
  | anyChar {glob name : List Char} (c : Char) (rest : Matches rule glob name) :
    Matches rule ('?' :: glob) (c :: name)
  | bracket {text inside glob name : List Char} {c : Char} (closed : Closes text inside glob)
    (belongs : Belongs rule inside c) (rest : Matches rule glob name) :
    Matches rule ('[' :: text) (c :: name)
  | unclosed {glob name : List Char} {c : Char} (opened : ¬ ∃ inside after, Closes glob inside after)
    (same : rule.Same '[' c) (rest : Matches rule glob name) :
    Matches rule ('[' :: glob) (c :: name)
  | exact {glob name : List Char} {c d : Char} (plain : d ∉ ['*', '?', '[']) (same : rule.Same d c)
    (rest : Matches rule glob name) : Matches rule (d :: glob) (c :: name)

/-! ## Characters -/

theorem alike_iff {c d : Char} (plain : c.toNat < 0x80) (plainToo : d.toNat < 0x80) :
    rule.alike c d = true ↔ rule.Same d c := by
  unfold CaseRule.Same
  rw [eq_comm (a := d), eq_comm (a := d.toLower)]
  cases rule with
  | exact => simp only [CaseRule.alike, beq_iff_eq, reduceCtorEq, false_and, or_false]
  | ignored =>
    simp only [CaseRule.alike, Bool.or_eq_true, beq_iff_eq, true_and,
      Text.fold_eq_fold_iff plain plainToo]

theorem inRange_iff {first last c : Char} (plain : c.toNat < 0x80) (short : last.toNat < 0x80) :
    rule.inRange first last c = true ↔ ∃ d, first ≤ d ∧ d ≤ last ∧ rule.Same d c := by
  cases rule with
  | exact =>
    simp only [CaseRule.inRange, CaseRule.Same, Bool.and_eq_true, decide_eq_true_eq, reduceCtorEq,
      false_and, or_false]
    constructor
    · rintro ⟨low, high⟩
      exact ⟨c, low, high, rfl⟩
    · rintro ⟨_, low, high, rfl⟩
      exact ⟨low, high⟩
  | ignored =>
    simp only [CaseRule.inRange, CaseRule.Same, Bool.or_eq_true, Bool.and_eq_true,
      decide_eq_true_eq, List.any_eq_true, true_and]
    constructor
    · rintro (⟨low, high⟩ | ⟨code, variant, low, high⟩)
      · exact ⟨c, low, high, .inl rfl⟩
      · have small : code < 0x80 := Nat.lt_of_le_of_lt high short
        have valid : code.isValidChar := .inl (by omega)
        obtain ⟨d, rfl⟩ : ∃ d : Char, d.toNat = code := ⟨Char.ofNatAux code valid, rfl⟩
        exact ⟨d, low, high, .inr ((Text.mem_caseVariants_iff plain small).mp variant)⟩
    · rintro ⟨d, low, high, rfl | same⟩
      · exact .inl ⟨low, high⟩
      · have small : d.toNat < 0x80 := Nat.lt_of_le_of_lt high short
        exact .inr ⟨d.toNat, (Text.mem_caseVariants_iff plain small).mpr same, low, high⟩

theorem holds_iff {item : SetItem} {c : Char} (plain : c.toNat < 0x80) (written : item.IsPlain) :
    item.holds rule c = true ↔ item.Has rule c := by
  cases item with
  | single d => exact alike_iff plain written
  | range first last => exact inRange_iff plain written.2

/-! ## Brackets -/

theorem setItems_plain {text : List Char} (plain : Text.IsPlain text) :
    ∀ item ∈ setItems text, item.IsPlain := by
  fun_induction setItems text with
  | case1 first last rest ih =>
    have rest_plain : Text.IsPlain rest := fun c member => plain c (by simp [member])
    rw [List.forall_mem_cons]
    exact ⟨⟨plain first (by simp), plain last (by simp)⟩, ih rest_plain⟩
  | case2 c rest other ih =>
    rw [List.forall_mem_cons]
    exact ⟨plain c List.mem_cons_self, ih fun d member => plain d (List.mem_cons_of_mem c member)⟩
  | case3 => exact fun _ member => absurd member List.not_mem_nil

theorem insideItems_plain {inside : List Char} (plain : Text.IsPlain inside) :
    ∀ item ∈ insideItems inside, item.IsPlain := by
  unfold insideItems
  split
  · rename_i body
    rw [List.forall_mem_cons]
    exact ⟨plain '!' List.mem_cons_self,
      setItems_plain fun c member => plain c (List.mem_cons_of_mem _ member)⟩
  · exact setItems_plain plain

theorem signed_plain {items : List SetItem} (plain : ∀ item ∈ items, item.IsPlain) :
    ∀ item ∈ (signed items).2, item.IsPlain := by
  unfold signed
  split
  · exact (List.forall_mem_cons.mp plain).2
  · obtain ⟨range, others⟩ := List.forall_mem_cons.mp plain
    have hyphen : (SetItem.single '-').IsPlain := show '-'.toNat < 0x80 by decide
    exact List.forall_mem_cons.mpr ⟨hyphen, List.forall_mem_cons.mpr ⟨range.2, others⟩⟩
  · exact plain

theorem accepts_bracketToken_iff {inside : List Char} {c : Char} (plain : Text.IsPlain inside)
    (plainToo : c.toNat < 0x80) :
    GlobToken.accepts rule c (bracketToken inside) = true ↔ Belongs rule inside c := by
  have written : ∀ item ∈ (readSet inside).2, item.IsPlain :=
    signed_plain fun item member => insideItems_plain plain item (List.mem_filter.mp member).1
  have some_holds : (readSet inside).2.any (·.holds rule c) = true ↔
      ∃ item ∈ (readSet inside).2, item.Has rule c := by
    rw [List.any_eq_true]
    exact exists_congr fun item => and_congr_right fun member =>
      holds_iff plainToo (written item member)
  rw [accepts_bracketToken, Belongs, ← some_holds]
  cases (readSet inside).1 <;> cases (readSet inside).2.any (·.holds rule c) <;> decide

theorem closed?_eq_some_iff {text inside after : List Char} :
    closed? text = some (inside, after) ↔
      ∃ first more, inside = first :: more ∧ text = inside ++ ']' :: after ∧ ']' ∉ more := by
  cases text with
  | nil => simp [closed?]
  | cons first tail =>
    rw [closed?, Option.map_eq_some_iff]
    constructor
    · rintro ⟨⟨more, _⟩, cut, ⟨⟩⟩
      obtain ⟨free, rfl⟩ := Text.cutFirst_eq_some_iff.mp cut
      exact ⟨first, more, rfl, rfl, free⟩
    · rintro ⟨_, more, rfl, ⟨⟩, free⟩
      exact ⟨(more, after), Text.cutFirst_eq_some_iff.mpr ⟨free, rfl⟩, rfl⟩

theorem bracket?_eq_some_iff {text inside after : List Char} :
    bracket? text = some (inside, after) ↔ Closes text inside after := by
  by_cases marked : text.head? = some '!'
  · obtain ⟨body, rfl⟩ := List.head?_eq_some_iff.mp marked
    rw [bracket?, Option.map_eq_some_iff]
    constructor
    · rintro ⟨⟨_, _⟩, closed, ⟨⟩⟩
      obtain ⟨first, more, rfl, rfl, free⟩ := closed?_eq_some_iff.mp closed
      exact ⟨['!'], first, more, rfl, rfl, free, .inl rfl⟩
    · rintro ⟨mark, first, more, rfl, same, free, rfl | ⟨rfl, plain⟩⟩
      · refine ⟨(first :: more, after), closed?_eq_some_iff.mpr ?_, rfl⟩
        exact ⟨first, more, rfl, (List.cons.inj same).2, free⟩
      · exact absurd (List.cons.inj same).1.symm plain
  · have unmarked : bracket? text = closed? text := by
      rw [bracket?]
      rintro body rfl
      exact marked rfl
    rw [unmarked, closed?_eq_some_iff]
    constructor
    · rintro ⟨first, more, rfl, rfl, free⟩
      exact ⟨[], first, more, rfl, rfl, free, .inr ⟨rfl, fun same => marked (by rw [same]; rfl)⟩⟩
    · rintro ⟨mark, first, more, rfl, rfl, free, rfl | ⟨rfl, plain⟩⟩
      · exact absurd rfl marked
      · exact ⟨first, more, rfl, rfl, free⟩

theorem bracket?_eq_none_iff {text : List Char} :
    bracket? text = none ↔ ¬ ∃ inside after, Closes text inside after := by
  simp only [← bracket?_eq_some_iff, not_exists, Option.eq_none_iff_forall_ne_some, Prod.forall,
    ne_eq]

/-! ## Globs -/

theorem someTail_iff {test : List Char → Bool} {text : List Char} :
    someTail test text = true ↔ ∃ skipped rest, text = skipped ++ rest ∧ test rest = true := by
  induction text with
  | nil =>
    constructor
    · exact fun holds => ⟨[], [], rfl, holds⟩
    · rintro ⟨skipped, rest, same, holds⟩
      obtain ⟨rfl, rfl⟩ := List.append_eq_nil_iff.mp same.symm
      exact holds
  | cons c text ih =>
    rw [someTail, Bool.or_eq_true, ih]
    constructor
    · rintro (holds | ⟨skipped, rest, rfl, holds⟩)
      · exact ⟨[], _, rfl, holds⟩
      · exact ⟨c :: skipped, rest, rfl, holds⟩
    · rintro ⟨skipped, rest, same, holds⟩
      rcases List.cons_eq_append_iff.mp same with ⟨rfl, rfl⟩ | ⟨further, rfl, rfl⟩
      · exact .inl holds
      · exact .inr ⟨further, rest, rfl, holds⟩

section Matches

variable {text inside after glob name : List Char} {d : Char}

theorem matches_nil_iff : Matches rule [] name ↔ name = [] := by
  constructor
  · rintro ⟨⟩
    rfl
  · rintro rfl
    exact .nil

theorem matches_star_iff :
    Matches rule ('*' :: glob) name ↔
      ∃ skipped rest, name = skipped ++ rest ∧ Matches rule glob rest := by
  constructor
  · intro matched
    cases matched with
    | star skipped rest => exact ⟨skipped, _, rfl, rest⟩
    | exact plain => exact absurd (by decide) plain
  · rintro ⟨skipped, rest, rfl, matched⟩
    exact .star skipped matched

theorem matches_anyChar_iff :
    Matches rule ('?' :: glob) name ↔
      ∃ c rest, name = c :: rest ∧ True ∧ Matches rule glob rest := by
  constructor
  · intro matched
    cases matched with
    | anyChar c rest => exact ⟨c, _, rfl, trivial, rest⟩
    | exact plain => exact absurd (by decide) plain
  · rintro ⟨c, rest, rfl, -, matched⟩
    exact .anyChar c matched

theorem matches_bracket_iff (closed : bracket? text = some (inside, after)) :
    Matches rule ('[' :: text) name ↔
      ∃ c rest, name = c :: rest ∧ Belongs rule inside c ∧ Matches rule after rest := by
  constructor
  · intro matched
    cases matched with
    | bracket closes belongs rest =>
      obtain ⟨rfl, rfl⟩ := Prod.mk.inj
        (Option.some.inj (closed.symm.trans (bracket?_eq_some_iff.mpr closes)))
      exact ⟨_, _, rfl, belongs, rest⟩
    | unclosed opened => exact absurd ⟨inside, after, bracket?_eq_some_iff.mp closed⟩ opened
    | exact plain => exact absurd (by decide) plain
  · rintro ⟨c, rest, rfl, belongs, matched⟩
    exact .bracket (bracket?_eq_some_iff.mp closed) belongs matched

theorem matches_unclosed_iff (opened : bracket? text = none) :
    Matches rule ('[' :: text) name ↔
      ∃ c rest, name = c :: rest ∧ rule.Same '[' c ∧ Matches rule text rest := by
  have opened := bracket?_eq_none_iff.mp opened
  constructor
  · intro matched
    cases matched with
    | bracket closes => exact absurd ⟨_, _, closes⟩ opened
    | unclosed _ same rest => exact ⟨_, _, rfl, same, rest⟩
    | exact plain => exact absurd (by decide) plain
  · rintro ⟨c, rest, rfl, same, matched⟩
    exact .unclosed opened same matched

theorem matches_exact_iff (plain : d ∉ ['*', '?', '[']) :
    Matches rule (d :: glob) name ↔
      ∃ c rest, name = c :: rest ∧ rule.Same d c ∧ Matches rule glob rest := by
  constructor
  · intro matched
    cases matched with
    | exact _ same rest => exact ⟨_, _, rfl, same, rest⟩
    | star | anyChar | bracket | unclosed => exact absurd (by decide) plain
  · rintro ⟨c, rest, rfl, same, matched⟩
    exact .exact plain same matched

end Matches

/-! ## Letter case -/

section LetterCase

variable {c d : Char}

theorem same_of_toLower {written : Char} (lower : c.toLower = d.toLower)
    (same : CaseRule.ignored.Same written c) : CaseRule.ignored.Same written d := by
  refine .inr ⟨rfl, ?_⟩
  rcases same with rfl | ⟨-, same⟩
  · exact lower
  · exact same.trans lower

theorem has_of_toLower {item : SetItem} (lower : c.toLower = d.toLower)
    (has : item.Has .ignored c) : item.Has .ignored d := by
  cases item with
  | single written => exact same_of_toLower lower has
  | range first last =>
    obtain ⟨between, low, high, same⟩ := has
    exact ⟨between, low, high, same_of_toLower lower same⟩

theorem belongs_of_toLower {inside : List Char} (lower : c.toLower = d.toLower)
    (belongs : Belongs .ignored inside c) : Belongs .ignored inside d := by
  have same : (∃ item ∈ (readSet inside).2, item.Has .ignored d) ↔
      ∃ item ∈ (readSet inside).2, item.Has .ignored c :=
    exists_congr fun item => and_congr_right fun _ =>
      ⟨has_of_toLower lower.symm, has_of_toLower lower⟩
  exact same.trans belongs

/-- What is matched without regard to letter case is matched in every letter case. -/
theorem Matches.change_case {glob name other : List Char} (matched : Matches .ignored glob name)
    (lower : name.map Char.toLower = other.map Char.toLower) : Matches .ignored glob other := by
  induction matched generalizing other with
  | nil =>
    obtain rfl := List.map_eq_nil_iff.mp lower.symm
    exact .nil
  | star skipped rest ih =>
    rw [List.map_append] at lower
    obtain ⟨front, tail, rfl, -, later⟩ := List.map_eq_append_iff.mp lower.symm
    exact .star front (ih later.symm)
  | anyChar c rest ih =>
    obtain ⟨d, tail, rfl, -, later⟩ := List.map_eq_cons_iff.mp lower.symm
    exact .anyChar d (ih later.symm)
  | bracket closed belongs rest ih =>
    obtain ⟨d, tail, rfl, first, later⟩ := List.map_eq_cons_iff.mp lower.symm
    exact .bracket closed (belongs_of_toLower first.symm belongs) (ih later.symm)
  | unclosed opened same rest ih =>
    obtain ⟨d, tail, rfl, first, later⟩ := List.map_eq_cons_iff.mp lower.symm
    exact .unclosed opened (same_of_toLower first.symm same) (ih later.symm)
  | exact plain same rest ih =>
    obtain ⟨d, tail, rfl, first, later⟩ := List.map_eq_cons_iff.mp lower.symm
    exact .exact plain (same_of_toLower first.symm same) (ih later.symm)

end LetterCase

/-! ## Tokens -/

/-- A token other than a star takes one character. -/
theorem covers_cons_iff {token : GlobToken} (single : token ≠ .star) {takes : Char → Prop}
    (accepts : ∀ c, c.toNat < 0x80 → (GlobToken.accepts rule c token = true ↔ takes c))
    {others : List GlobToken} {glob : List Char}
    (ih : ∀ {rest : List Char}, Text.IsPlain rest →
      (covers rule others rest = true ↔ Matches rule glob rest))
    {name : List Char} (plain : Text.IsPlain name) :
    covers rule (token :: others) name = true ↔
      ∃ c rest, name = c :: rest ∧ takes c ∧ Matches rule glob rest := by
  cases name with
  | nil => cases token <;> simp [covers] at single ⊢
  | cons c rest =>
    obtain ⟨first, tail⟩ := List.forall_mem_cons.mp plain
    have step : covers rule (token :: others) (c :: rest) =
        (GlobToken.accepts rule c token && covers rule others rest) := by
      cases token <;> first | contradiction | rfl
    rw [step, Bool.and_eq_true, accepts c first, ih tail]
    constructor
    · rintro ⟨taken, matched⟩
      exact ⟨c, rest, rfl, taken, matched⟩
    · rintro ⟨_, _, ⟨⟩, taken, matched⟩
      exact ⟨taken, matched⟩

theorem bracketToken_ne_star (inside : List Char) : bracketToken inside ≠ .star := by
  unfold bracketToken
  dsimp only
  unfold setToken
  split <;> nofun

/-- **The tokens of a glob cover the names that it matches.** -/
theorem covers_tokens_iff {glob name : List Char} (plain : Text.IsPlain glob)
    (plainToo : Text.IsPlain name) :
    covers rule (tokens glob) name = true ↔ Matches rule glob name := by
  induction glob using tokens.induct generalizing name with
  | case1 => rw [tokens, covers, List.isEmpty_iff, matches_nil_iff]
  | case2 rest ih =>
    rw [tokens, covers, someTail_iff, matches_star_iff]
    refine exists_congr fun skipped => exists_congr fun tail => and_congr_right ?_
    rintro rfl
    exact ih (List.forall_mem_cons.mp plain).2 (List.forall_mem_append.mp plainToo).2
  | case3 rest ih =>
    rw [tokens, matches_anyChar_iff]
    refine covers_cons_iff ?_ (fun _ _ => ?_) (ih (List.forall_mem_cons.mp plain).2) plainToo
    · nofun
    · exact iff_of_true rfl trivial
  | case4 rest opened ih =>
    rw [tokens, opened, matches_unclosed_iff opened]
    refine covers_cons_iff ?_ (fun _ small => ?_) (ih (List.forall_mem_cons.mp plain).2) plainToo
    · nofun
    · exact alike_iff small (by decide)
  | case5 rest inside after closed ih =>
    obtain ⟨_, _, _, _, rfl, _⟩ := bracket?_eq_some_iff.mp closed
    obtain ⟨inside_plain, rest_plain⟩ :=
      List.forall_mem_append.mp (List.forall_mem_cons.mp plain).2
    rw [tokens, closed, matches_bracket_iff closed]
    exact covers_cons_iff (bracketToken_ne_star inside)
      (fun _ small => accepts_bracketToken_iff inside_plain small)
      (ih (List.forall_mem_cons.mp rest_plain).2) plainToo
  | case6 c rest noStar noMark noBracket ih =>
    have exactly : c ∉ ['*', '?', '['] := by
      simp only [List.mem_cons, List.not_mem_nil, or_false, not_or]
      exact ⟨noStar, noMark, noBracket⟩
    obtain ⟨small, rest_plain⟩ := List.forall_mem_cons.mp plain
    rw [tokens, matches_exact_iff exactly]
    · refine covers_cons_iff ?_ (fun _ own => ?_) (ih rest_plain) plainToo
      · nofun
      · exact alike_iff own small
    all_goals assumption

end Glob
end CatalogDelta
