import CatalogDelta.Decimal.Numeral

/-!
# Whole numbers are read back

A whole number that is not too long is read back from the numeral that is written for it.
-/

namespace CatalogDelta.Decimal

theorem toNat_of_isDigit {c : Char} (digit : c.isDigit = true) : 48 ≤ c.toNat ∧ c.toNat ≤ 57 := by
  simp only [Char.isDigit, ge_iff_le, Bool.and_eq_true, decide_eq_true_eq,
    UInt32.le_iff_toNat_le] at digit
  exact digit

/-- The value of a digit is how far it is from zero. -/
theorem digitValue?_of_isDigit {c : Char} (digit : c.isDigit = true) :
    Text.digitValue? c = some (c.toNat - '0'.toNat) := by
  obtain ⟨least, most⟩ := toNat_of_isDigit digit
  rw [Text.digitValue?, if_pos (by omega), if_pos ⟨least, most⟩]
  rfl

theorem isDigit_of_isDigit {c : Char} (digit : c.isDigit = true) : Text.isDigit c = true := by
  rw [Text.isDigit, digitValue?_of_isDigit digit]
  rfl

theorem isDigit_of_mem_digitsOf {n : Nat} {c : Char} (member : c ∈ digitsOf n) :
    c.isDigit = true :=
  Nat.isDigit_of_mem_toDigits (by decide) (Nat.le_refl 10) member

theorem digitsValue_digitsOf (n : Nat) : Text.digitsValue (digitsOf n) = n := by
  have fold (digits : List Char) (plain : ∀ c ∈ digits, c.isDigit = true) (total : Nat) :
      digits.foldl (fun total c => 10 * total + (Text.digitValue? c).getD 0) total =
        Nat.ofDigitChars 10 digits total := by
    rw [Nat.ofDigitChars_eq_foldl]
    induction digits generalizing total with
    | nil => rfl
    | cons c rest ih =>
      rw [List.foldl_cons, List.foldl_cons, digitValue?_of_isDigit (plain c List.mem_cons_self)]
      exact ih (fun other member => plain other (List.mem_cons_of_mem c member)) _
  unfold Text.digitsValue
  rw [fold _ fun _ => isDigit_of_mem_digitsOf]
  exact Nat.ofDigitChars_ten_toDigits

/-- A run of digits goes on to the end of a text of digits. -/
theorem digitRun_of_digits {digits : List Char} (plain : ∀ c ∈ digits, c.isDigit = true) :
    digitRun digits = (digits, []) := by
  induction digits with
  | nil => rfl
  | cons c rest ih =>
    have digit := plain c List.mem_cons_self
    have later := ih fun other member => plain other (List.mem_cons_of_mem c member)
    have plainSign : c ≠ '_' := by
      rintro rfl
      exact absurd digit (by decide)
    rw [digitRun, if_pos (isDigit_of_isDigit digit), later]
    rintro _ _ rfl
    exact absurd rfl plainSign

/-- Neither a digit nor a sign is blank. -/
theorem trimNumeral_of_forall {text : List Char} (bare : ∀ c ∈ text, isNumeralBlank c = false) :
    trimNumeral text = text := by
  have keep {text : List Char} (bare : ∀ c ∈ text, isNumeralBlank c = false) :
      text.dropWhile isNumeralBlank = text := by
    cases text with
    | nil => rfl
    | cons c rest =>
      exact List.dropWhile_cons_of_neg (Bool.not_eq_true _ ▸ bare c List.mem_cons_self)
  unfold trimNumeral
  rw [keep bare, keep fun c member => bare c (List.mem_reverse.mp member), List.reverse_reverse]

theorem isNumeralBlank_of_isDigit {c : Char} (digit : c.isDigit = true) :
    isNumeralBlank c = false := by
  obtain ⟨least, most⟩ := toNat_of_isDigit digit
  have bare : Text.isBlank c = false := by
    simp only [Text.isBlank, Text.Ranges.holds, Text.blankRanges, List.any_cons, List.any_nil,
      Bool.or_eq_false_iff, Bool.and_eq_false_iff, decide_eq_false_iff_not, Nat.not_le, and_true]
    omega
  rw [isNumeralBlank, bare, Bool.false_and]

theorem splitSign_of_digits {digits : List Char} (plain : ∀ c ∈ digits, c.isDigit = true) :
    splitSign digits = (false, digits) := by
  cases digits with
  | nil => rfl
  | cons c rest =>
    have digit := plain c List.mem_cons_self
    unfold splitSign
    split
    · rename_i same
      cases same
      exact absurd digit (by decide)
    · rename_i same
      cases same
      exact absurd digit (by decide)
    · rfl

/-- The sign of a numeral and its digits. -/
theorem splitSign_showInteger (n : Int) :
    splitSign (showInteger n) = (decide (n < 0), digitsOf n.natAbs) := by
  unfold showInteger
  split
  · rename_i negative
    rw [decide_eq_true negative]
    rfl
  · rename_i natural
    rw [decide_eq_false natural]
    exact splitSign_of_digits fun _ => isDigit_of_mem_digitsOf

theorem trimNumeral_showInteger (n : Int) : trimNumeral (showInteger n) = showInteger n := by
  refine trimNumeral_of_forall fun c member => ?_
  have bare : c ∈ digitsOf n.natAbs → isNumeralBlank c = false := fun member =>
    isNumeralBlank_of_isDigit (isDigit_of_mem_digitsOf member)
  unfold showInteger at member
  split at member
  · rcases List.mem_cons.mp member with rfl | digit
    · decide
    · exact bare digit
  · exact bare member

/-- **A whole number is read back** unless it has too many digits. -/
theorem parseInteger_showInteger {n : Int} (short : (digitsOf n.natAbs).length ≤ digitLimit) :
    parseInteger (showInteger n) = .ok n := by
  have plain : ∀ c ∈ digitsOf n.natAbs, c.isDigit = true := fun _ => isDigit_of_mem_digitsOf
  have some : digitsOf n.natAbs ≠ [] := Nat.toDigits_ne_nil
  unfold parseInteger
  rw [trimNumeral_showInteger, splitSign_showInteger]
  dsimp only
  split
  · rename_i first
    rw [first] at plain
    exact absurd (plain _ List.mem_cons_self) (by decide)
  · rw [digitRun_of_digits plain]
    dsimp only
    rw [if_neg (Nat.not_lt.mpr short), digitsValue_digitsOf, List.isEmpty_eq_false_iff.mpr some]
    simp only [List.isEmpty_nil, Bool.not_true, Bool.or_self, Bool.false_eq_true, ↓reduceIte,
      decide_eq_true_eq]
    congr 1
    split <;> omega

end CatalogDelta.Decimal
