import CatalogDelta.Lookback.Duration
import CatalogDelta.Proofs.Text.PlainLetter
import Mathlib.Tactic.ByContra

/-!
# The letters of durations

Letters are alike if they differ in nothing but case. What is alike to one of the letters that mean
something in a duration is that letter in either case; the one exception is the long `s`.
-/

namespace CatalogDelta.Duration

/-- The letters that mean something in a duration. -/
def letters : List Char := ['p', 't', 'w', 'd', 'h', 'm', 's']

theorem forall_letters {holds : Char → Prop} :
    (∀ letter ∈ letters, holds letter) ↔ holds 'p' ∧ holds 't' ∧ holds 'w' ∧ holds 'd' ∧
      holds 'h' ∧ holds 'm' ∧ holds 's' := by
  simp only [letters, List.forall_mem_cons, List.not_mem_nil, false_implies, implies_true, and_true]

/-- The one letter beyond these that is alike to one of them, the long `s`. -/
def longS : Char := 'ſ'

theorem loweringRuns_apart : ∀ run ∈ Text.loweringRuns,
    run.2.1 < 0x80 ∨ (run.1 = run.2.1 ∧ (run.1 + run.2.2.2 = 0x69 ∨ run.1 + run.2.2.2 = 0x6B)) ∨
      (0x80 ≤ run.1 + run.2.2.2 ∧
        (run.2.1 + run.2.2.2 < 0x17F ∨ 0x17F < run.1 + run.2.2.2 ∧ run.2.1 + run.2.2.2 < 0xD800 ∨
          0xDFFF < run.1 + run.2.2.2 ∧ run.2.1 + run.2.2.2 < 0x110000)) := by
  decide +kernel

/-- Beyond the plain characters no lower-case letter is one of these, but for the long `s`. -/
theorem lower_beyond {c : Char} (beyond : ¬ c.toNat < 0x80) :
    Text.lower c = c ∨ (Text.lower c).toNat = 0x69 ∨ (Text.lower c).toNat = 0x6B ∨
      0x80 ≤ (Text.lower c).toNat ∧ (Text.lower c).toNat ≠ 0x17F := by
  unfold Text.lower
  rw [if_neg beyond]
  split
  · rename_i first last stride distance found
    have member := List.mem_of_find?_eq_some found
    have within := List.find?_some found
    simp only [Bool.and_eq_true, decide_eq_true_eq] at within
    obtain ⟨⟨low, high⟩, -⟩ := within
    right
    have apart := loweringRuns_apart _ member
    dsimp only at apart
    have valid : ((c.toNat : Int) + distance).toNat.isValidChar := by
      unfold Nat.isValidChar
      omega
    have code : (Char.ofNat ((c.toNat : Int) + distance).toNat).toNat =
        ((c.toNat : Int) + distance).toNat := by
      unfold Char.ofNat
      rw [dif_pos valid]
      rfl
    rw [code]
    omega
  · exact .inl rfl

theorem kinLetters_heads : ∀ kin ∈ Text.kinLetters, ∀ letter ∈ letters,
    kin.headD 0 = letter.toNat → letter = 's' ∧ kin = [0x73, 0x17F] := by
  simp only [forall_letters]
  decide +kernel

theorem headD_kin {code : Nat} {letter : Char} (member : letter ∈ letters)
    (head : (Text.kin code).headD code = letter.toNat) :
    code = letter.toNat ∨ letter = 's' ∧ code = 0x17F := by
  unfold Text.kin at head
  cases found : Text.kinLetters.find? (·.contains code) with
  | none =>
    rw [found] at head
    exact .inl head
  | some kin =>
    rw [found, Option.getD_some] at head
    have known := List.mem_of_find?_eq_some found
    have holds := List.find?_some found
    have contained : code ∈ kin := List.contains_iff_mem.mp holds
    have first : kin.headD 0 = letter.toNat := by
      cases kin with
      | nil => cases contained
      | cons code others => exact head
    obtain ⟨rfl, rfl⟩ := kinLetters_heads kin known letter member first
    rcases List.mem_cons.mp contained with same | long
    · exact .inl same
    · exact .inr ⟨rfl, List.mem_singleton.mp long⟩

variable {letter other c : Char}

theorem toLower_of_beyond (beyond : ¬ c.toNat < 0x80) : c.toLower = c := by
  unfold Char.toLower
  apply dif_neg
  rintro ⟨-, low⟩
  have small : c.toNat ≤ 0x5A := low
  omega

theorem letters_plain : ∀ letter ∈ letters, letter.toNat < 0x80 ∧ letter.toNat ≠ 0x69 ∧
    letter.toNat ≠ 0x6B ∧ Text.lower letter = letter ∧ Text.fold letter = letter.toNat := by
  rw [forall_letters]
  decide +kernel

/-- A character is alike to one of the letters if it is that letter in either case, or a long `s`. -/
theorem fold_eq_iff (member : letter ∈ letters) :
    Text.fold c = Text.fold letter ↔ c.toLower = letter ∨ letter = 's' ∧ c = longS := by
  obtain ⟨low, noDot, noKelvin, own, same⟩ := letters_plain letter member
  constructor
  · intro alike
    rw [same] at alike
    have codes := headD_kin member alike
    by_cases plain : c.toNat < 0x80
    · have lower : Text.lower c = c.toLower := Text.lower_of_plain plain
      have small := Text.toLower_plain plain
      rw [lower] at codes
      rcases codes with code | ⟨-, code⟩
      · exact .inl (Char.toNat_inj.mp code)
      · omega
    · rw [toLower_of_beyond plain]
      rcases lower_beyond plain with lower | lower | lower | lower
      · rw [lower] at codes
        rcases codes with code | ⟨isS, code⟩
        · omega
        · exact .inr ⟨isS, Char.toNat_inj.mp code⟩
      · omega
      · omega
      · omega
  · rintro (rfl | ⟨rfl, rfl⟩)
    · have plain : c.toNat < 0x80 := by
        by_contra beyond
        rw [toLower_of_beyond beyond] at low
        exact beyond low
      have lower : Text.lower c = c.toLower := Text.lower_of_plain plain
      unfold Text.fold
      rw [lower, own]
    · decide +kernel

theorem isLetter_iff : isLetter letter c = true ↔ Text.fold c = Text.fold letter := decide_eq_true_iff

theorem lt_of_toLower (member : letter ∈ letters) (lower : c.toLower = letter) :
    c.toNat < 0x80 := by
  by_contra beyond
  rw [toLower_of_beyond beyond] at lower
  rw [lower] at beyond
  exact beyond (letters_plain letter member).1

/-- None of these letters continues an amount. -/
theorem not_amount_of_fold (member : letter ∈ letters) (alike : Text.fold c = Text.fold letter) :
    Text.isDigit c = false ∧ c ≠ '.' := by
  rcases (fold_eq_iff member).mp alike with lower | ⟨-, rfl⟩
  · have all : ∀ code < 0x80, (Char.ofNat code).toLower ∈ letters →
        Text.isDigit (Char.ofNat code) = false ∧ Char.ofNat code ≠ '.' := by decide +kernel
    have known := all c.toNat (lt_of_toLower member lower)
    rw [Char.ofNat_toNat, lower] at known
    exact known member
  · decide +kernel

theorem eq_of_fold_eq (member : letter ∈ letters) (memberToo : other ∈ letters)
    (alike : Text.fold letter = Text.fold other) : letter = other := by
  obtain ⟨-, -, -, -, same⟩ := letters_plain letter member
  obtain ⟨-, -, -, -, sameToo⟩ := letters_plain other memberToo
  rw [same, sameToo] at alike
  exact Char.toNat_inj.mp alike

/-- Plain characters are alike to these letters just if they are the same letter in either case. -/
theorem fold_eq_iff_of_plain (plain : c.toNat < 0x80) (member : letter ∈ letters) :
    Text.fold c = Text.fold letter ↔ c.toLower = letter.toLower := by
  have own : ∀ letter ∈ letters, letter.toLower = letter := by
    rw [forall_letters]
    decide
  rw [fold_eq_iff member, own letter member]
  constructor
  · rintro (lower | ⟨-, rfl⟩)
    · exact lower
    · exact absurd plain (by decide)
  · exact .inl

theorem lower_eq_iff_of_plain (plain : c.toNat < 0x80) (member : letter ∈ letters) :
    Text.lower c = Text.lower letter ↔ c.toLower = letter.toLower := by
  have lower : Text.lower c = c.toLower := Text.lower_of_plain plain
  have own : Text.lower letter = letter.toLower := if_pos (letters_plain letter member).1
  rw [lower, own]

end CatalogDelta.Duration
