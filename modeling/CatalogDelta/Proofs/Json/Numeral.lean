import CatalogDelta.Json.Reader
import CatalogDelta.Proofs.Decimal.Integer
import Mathlib.Data.List.TakeDrop

/-!
# Numerals are read back

The numeral of a whole number is read up to its end, whatever follows, as long as that does not go
on with the numeral. Main statement: `scalar_showInteger`.
-/

namespace CatalogDelta.Json

/-- A text that does not go on with a numeral. -/
def Parts (rest : List Char) : Prop :=
  ∀ c ∈ rest.head?, c.isDigit = false ∧ c ≠ '.' ∧ c ≠ 'e' ∧ c ≠ 'E'

variable {n : Int} {rest : List Char}

/-- A run of digits ends where no digit follows. -/
theorem leadingDigits_append {digits : List Char} (plain : ∀ c ∈ digits, c.isDigit = true)
    (parts : Parts rest) : leadingDigits (digits ++ rest) = (digits, rest) := by
  unfold leadingDigits
  rw [List.span_eq_takeWhile_dropWhile, List.takeWhile_append_of_pos plain,
    List.dropWhile_append_of_pos plain]
  cases rest with
  | nil => simp only [List.takeWhile_nil, List.dropWhile_nil, List.append_nil]
  | cons c others =>
    have stop : ¬c.isDigit = true := by
      rw [(parts c rfl).1]
      exact Bool.false_ne_true
    rw [List.takeWhile_cons_of_neg stop, List.dropWhile_cons_of_neg stop, List.append_nil]

/-- The digits of a number begin with a digit, which is a zero only for zero. -/
theorem digitsOf_cases (n : Nat) :
    Decimal.digitsOf n = ['0'] ∨
      ∃ c others, Decimal.digitsOf n = c :: others ∧ c.isDigit = true ∧ c ≠ '0' := by
  induction n using Nat.strongRecOn with
  | ind n ih =>
    have plain : ∀ c ∈ Decimal.digitsOf n, c.isDigit = true :=
      fun _ => Decimal.isDigit_of_mem_digitsOf
    unfold Decimal.digitsOf at plain ih ⊢
    by_cases small : n < 10
    · rw [Nat.toDigits_of_lt_base small] at plain ⊢
      by_cases zero : n = 0
      · subst zero
        exact .inl rfl
      · exact .inr ⟨_, _, rfl, plain _ List.mem_cons_self,
          fun same => zero (Nat.digitChar_eq_zero.mp same)⟩
    · have large : 10 ≤ n := Nat.not_lt.mp small
      have positive : 0 < n / 10 := Nat.div_pos large (by decide)
      rw [Nat.toDigits_of_base_le (by decide) large] at plain ⊢
      rcases ih (n / 10) (Nat.div_lt_self (Nat.lt_of_lt_of_le (by decide) large) (by decide)) with
        zero | ⟨c, others, first, digit, other⟩
      · have value := congrArg (Nat.ofDigitChars 10 · 0) zero
        rw [Nat.ofDigitChars_ten_toDigits] at value
        exact absurd value (Nat.ne_of_gt positive)
      · rw [first]
        exact .inr ⟨c, _, rfl, digit, other⟩

theorem wholePart?_digitsOf (n : Nat) (parts : Parts rest) :
    wholePart? (Decimal.digitsOf n ++ rest) = some (Decimal.digitsOf n, rest) := by
  rcases digitsOf_cases n with zero | ⟨c, others, first, digit, other⟩
  · rw [zero]
    rfl
  · have plain : ∀ c ∈ Decimal.digitsOf n, c.isDigit = true :=
      fun _ => Decimal.isDigit_of_mem_digitsOf
    have digits := leadingDigits_append plain parts
    rw [first, List.cons_append] at digits ⊢
    unfold wholePart?
    split
    · rename_i same
      exact absurd (List.cons.inj same).1 other
    · rename_i same
      obtain ⟨rfl, rfl⟩ := List.cons.inj same
      rw [if_pos digit, digits]
    · contradiction

theorem signPart_showInteger (n : Int) (rest : List Char) :
    signPart (Decimal.showInteger n ++ rest) =
      (decide (n < 0), Decimal.digitsOf n.natAbs ++ rest) := by
  unfold Decimal.showInteger
  by_cases negative : n < 0
  · rw [if_pos negative, decide_eq_true negative]
    rfl
  · rw [if_neg negative, decide_eq_false negative]
    obtain ⟨c, others, first, other⟩ : ∃ c others,
        Decimal.digitsOf n.natAbs = c :: others ∧ c ≠ '-' := by
      rcases digitsOf_cases n.natAbs with zero | ⟨c, others, first, digit, _⟩
      · exact ⟨_, _, zero, by decide⟩
      · refine ⟨c, others, first, ?_⟩
        rintro rfl
        exact absurd digit (by decide)
    rw [first, List.cons_append]
    unfold signPart
    split
    · rename_i same
      exact absurd (List.cons.inj same).1 other
    · rfl

theorem fractionPart_of_parts (parts : Parts rest) : fractionPart rest = (none, rest) := by
  unfold fractionPart
  split
  · exact absurd rfl (parts '.' rfl).2.1
  · rfl

theorem exponentPart_of_parts (parts : Parts rest) : exponentPart rest = (none, rest) := by
  cases rest with
  | nil => rfl
  | cons c others =>
    obtain ⟨_, _, small, large⟩ := parts c rfl
    unfold exponentPart
    dsimp only
    rw [if_neg (not_or.mpr ⟨small, large⟩)]

/-- The numeral of a whole number is read up to its end. -/
theorem numeral?_showInteger (n : Int) (parts : Parts rest) :
    numeral? (Decimal.showInteger n ++ rest) =
      some (⟨decide (n < 0), Decimal.digitsOf n.natAbs, none, none⟩, rest) := by
  unfold numeral?
  rw [signPart_showInteger]
  simp only [wholePart?_digitsOf n.natAbs parts, fractionPart_of_parts parts,
    exponentPart_of_parts parts, Option.bind_eq_bind, Option.bind_some, Option.pure_def]

/-- A numeral begins with a digit, or with a minus and a digit. -/
theorem showInteger_cases (n : Int) :
    ∃ c others, c.isDigit = true ∧
      (Decimal.showInteger n = c :: others ∨ Decimal.showInteger n = '-' :: c :: others) := by
  have begins : ∃ c others, c.isDigit = true ∧ Decimal.digitsOf n.natAbs = c :: others := by
    rcases digitsOf_cases n.natAbs with zero | ⟨c, others, first, digit, _⟩
    · exact ⟨_, _, by decide, zero⟩
    · exact ⟨c, others, digit, first⟩
  obtain ⟨c, others, digit, first⟩ := begins
  refine ⟨c, others, digit, ?_⟩
  unfold Decimal.showInteger
  split
  · exact .inr (congrArg ('-' :: ·) first)
  · exact .inl first

/-- A whole number is none of the words. -/
theorem word?_showInteger (n : Int) (rest : List Char) :
    word? Dialect.data.words (Decimal.showInteger n ++ rest) = none := by
  have wordless : (Dialect.data.words.all fun entry =>
      2 ≤ entry.1.toList.length && entry.1.toList.all (!·.isDigit)) = true := by decide
  obtain ⟨c, others, digit, written⟩ := showInteger_cases n
  unfold word?
  rw [List.findSome?_eq_none_iff]
  intro entry member
  refine if_neg fun begins => ?_
  have word_eq := List.all_eq_true.mp wordless entry member
  simp only [Bool.and_eq_true, decide_eq_true_eq, List.all_eq_true, Bool.not_eq_true'] at word_eq
  obtain ⟨long, letters⟩ := word_eq
  obtain ⟨more, whole⟩ := List.isPrefixOf_iff_prefix.mp begins
  match word : entry.1.toList, long with
  | first :: second :: remaining, _ =>
    rw [word] at letters whole
    -- Within two characters comes the digit, which no word holds.
    rcases written with written | written
    · rw [written] at whole
      obtain ⟨rfl, _⟩ := List.cons.inj whole
      exact absurd digit (Bool.eq_false_iff.mp (letters _ List.mem_cons_self))
    · rw [written] at whole
      obtain ⟨_, inner⟩ := List.cons.inj whole
      obtain ⟨rfl, _⟩ := List.cons.inj inner
      exact absurd digit
        (Bool.eq_false_iff.mp (letters _ (List.mem_cons_of_mem _ List.mem_cons_self)))

/-- **A whole number is read back** from its numeral. -/
theorem scalar_showInteger (short : (Decimal.digitsOf n.natAbs).length ≤ Decimal.digitLimit)
    (parts : Parts rest) :
    scalar .data (Decimal.showInteger n ++ rest) = .ok (.int n, rest) := by
  have value_eq : Numeral.value ⟨decide (n < 0), Decimal.digitsOf n.natAbs, none, none⟩ =
      .ok (.int n) := by
    unfold Numeral.value
    simp only [Option.isNone_none, Bool.and_self, ↓reduceIte, Nat.not_lt.mpr short,
      Decimal.digitsValue_digitsOf, decide_eq_true_eq]
    congr 2
    split <;> omega
  have data_eq : Dialect.data.numeral = Numeral.value := rfl
  unfold scalar
  rw [word?_showInteger, numeral?_showInteger n parts]
  simp only [data_eq, value_eq]

end CatalogDelta.Json
