import CatalogDelta.Text.LetterCase

/-!
# Letters of plain text

Plain text has only characters below `0x80`. Two of them are alike when case is ignored just if their
lower-case forms are the same.
-/

namespace CatalogDelta.Text

/-- The text has only plain characters. -/
def IsPlain (text : List Char) : Prop := ∀ c ∈ text, c.toNat < 0x80

theorem isPlain_of_all {text : List Char} (plain : (text.all fun c => c.toNat < 0x80) = true) :
    IsPlain text := fun c member => of_decide_eq_true (List.all_eq_true.mp plain c member)

variable {c d : Char} {code source : Nat}

theorem toNat_toLower (c : Char) :
    c.toLower.toNat = if 0x41 ≤ c.toNat ∧ c.toNat ≤ 0x5A then c.toNat + 32 else c.toNat := by
  unfold Char.toLower
  split
  · rename_i capital
    have low : 0x41 ≤ c.toNat := capital.1
    have high : c.toNat ≤ 0x5A := capital.2
    rw [if_pos ⟨low, high⟩]
    change (c.val + 32).toNat = c.val.toNat + 32
    rw [UInt32.toNat_add]
    change c.val.toNat ≤ 0x5A at high
    have small : (32 : UInt32).toNat = 32 := rfl
    omega
  · rename_i other
    exact (if_neg other).symm

/-- Of letters that are kin at most one is plain, and it comes first. -/
theorem kinLetters_plain : ∀ kin ∈ kinLetters, ∀ code ∈ kin, code < 0x80 →
    kin.head? = some code ∧ ∀ other ∈ kin, other < 0x80 → other = code := by
  decide +kernel

theorem kin_of_plain (plain : code < 0x80) :
    (kin code).head? = some code ∧ ∀ other ∈ kin code, other < 0x80 → other = code := by
  unfold kin
  cases found : kinLetters.find? (·.contains code) with
  | none => exact ⟨rfl, fun other member _ => List.mem_singleton.mp member⟩
  | some letters =>
    have holds := List.find?_some found
    exact kinLetters_plain letters (List.mem_of_find?_eq_some found) code
      (List.contains_iff_mem.mp holds) plain

theorem loweringRuns_plain : ∀ run ∈ loweringRuns, run.1 < 0x80 → run = (0x41, 0x5A, 1, 32) := by
  decide +kernel

/-- The plain letters with a lower-case partner are the capitals of the alphabet. -/
theorem mem_raised_iff (plain : source < 0x80) :
    source ∈ raised code ↔ 0x41 ≤ source ∧ source ≤ 0x5A ∧ code = source + 32 := by
  unfold raised
  rw [List.mem_filterMap]
  constructor
  · rintro ⟨⟨first, last, stride, distance⟩, member, found⟩
    obtain ⟨within, same⟩ := Option.ite_none_right_eq_some.mp found
    obtain rfl := Option.some.inj same
    simp only [Bool.and_eq_true, decide_eq_true_eq] at within
    have run := loweringRuns_plain _ member (Nat.lt_of_le_of_lt within.1.1 plain)
    simp only [Prod.mk.injEq] at run
    obtain ⟨rfl, rfl, rfl, rfl⟩ := run
    omega
  · rintro ⟨low, high, rfl⟩
    refine ⟨(0x41, 0x5A, 1, 32), List.mem_cons_self, ?_⟩
    have back : (((source + 32 : Nat) : Int) - 32).toNat = source := by omega
    simp only [back, low, high, decide_true, Nat.mod_one, beq_self_eq_true, Bool.and_self,
      ↓reduceIte]

theorem lower_of_plain (plain : c.toNat < 0x80) : lower c = c.toLower := if_pos plain

theorem toLower_plain (plain : c.toNat < 0x80) : c.toLower.toNat < 0x80 := by
  have := toNat_toLower c
  split at this <;> omega

theorem fold_of_plain (plain : c.toNat < 0x80) : fold c = c.toLower.toNat := by
  unfold fold
  rw [lower_of_plain plain, List.headD_eq_head?_getD, (kin_of_plain (toLower_plain plain)).1]
  rfl

theorem fold_eq_fold_iff (plain : c.toNat < 0x80) (plainToo : d.toNat < 0x80) :
    fold c = fold d ↔ c.toLower = d.toLower := by
  rw [fold_of_plain plain, fold_of_plain plainToo, Char.toNat_inj]

/-- The plain variants of a plain character are those with the same lower-case form. -/
theorem mem_caseVariants_iff (plain : c.toNat < 0x80) (plainToo : d.toNat < 0x80) :
    d.toNat ∈ caseVariants c ↔ d.toLower = c.toLower := by
  have low := toLower_plain plain
  obtain ⟨first, only⟩ := kin_of_plain low
  have own := toNat_toLower d
  unfold caseVariants
  rw [lower_of_plain plain, List.mem_flatMap, ← Char.toNat_inj]
  constructor
  · rintro ⟨code, akin, member⟩
    have partner := only code akin
    have twice := toNat_toLower c
    rcases List.mem_cons.mp member with rfl | capital
    · split at own <;> split at twice <;> omega
    · have pair := (mem_raised_iff plainToo).mp capital
      split at own <;> omega
  · intro same
    refine ⟨c.toLower.toNat, List.mem_of_mem_head? first, ?_⟩
    rw [List.mem_cons, mem_raised_iff plainToo, ← same]
    split at own <;> omega

end CatalogDelta.Text
