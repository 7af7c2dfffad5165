import CatalogDelta.Clock.Span
import CatalogDelta.Proofs.Decimal.Unsigned

/-!
# Adding up amounts of time

Amounts without a sign add up to a span that is not negative, unless they exceed what a span can
be; no other error occurs. Amounts that are whole numbers add up exactly.
-/

namespace CatalogDelta.Span

open Decimal

/-! ## The limit -/

/-- The number of microseconds that no span reaches. -/
def microsLimit : Int := (dayLimit + 1) * microsPerDay

theorem ofMicros?_eq_ok_or (micros : Int) :
    ofMicros? micros = .ok ⟨micros⟩ ∨ ofMicros? micros = .error .outOfRange := by
  unfold ofMicros?
  dsimp only
  split
  · exact .inl rfl
  · exact .inr rfl

theorem ofMicros?_eq_ok_iff {micros : Int} :
    ofMicros? micros = .ok ⟨micros⟩ ↔ -(dayLimit * microsPerDay) ≤ micros ∧ micros < microsLimit := by
  have within : (days ⟨micros⟩).natAbs ≤ dayLimit.natAbs ↔
      -(dayLimit * microsPerDay) ≤ micros ∧ micros < microsLimit := by
    unfold days microsLimit microsPerDay dayLimit
    rw [Int.fdiv_eq_ediv_of_nonneg _ (by decide)]
    dsimp only
    omega
  unfold ofMicros?
  dsimp only
  rw [← within]
  split
  · rename_i small
    exact iff_of_true rfl small
  · rename_i large
    exact iff_of_false nofun large

theorem ofMicros?_of_nonneg {micros : Int} (nonneg : 0 ≤ micros) :
    ofMicros? micros = if micros < microsLimit then .ok ⟨micros⟩ else .error .outOfRange := by
  split
  · rename_i small
    refine ofMicros?_eq_ok_iff.mpr ⟨?_, small⟩
    unfold dayLimit microsPerDay
    omega
  · rename_i large
    rcases ofMicros?_eq_ok_or micros with within | outside
    · exact absurd (ofMicros?_eq_ok_iff.mp within).2 large
    · exact outside

/-! ## Cutting a float -/

theorem splitFloat_of_unsigned {x : Float} (unsigned : IsUnsigned x) :
    splitFloat x = .error .outOfRange ∨
      ∃ (whole : Nat) (rest : Float), splitFloat x = .ok (whole, rest) ∧ IsUnsigned rest := by
  rcases unsigned.reading with infinite | ⟨number, finite⟩
  · left
    unfold splitFloat
    rw [infinite]
  · right
    have exact : IsExact _ x := isExact_iff.mpr ⟨number, finite, rfl⟩
    have whole : IsExact number.floor (Float.ofInt (number.floor : Int)) :=
      isExact_ofNat (isFloat_floor exact finite)
    refine ⟨number.floor, x - Float.ofInt (number.floor : Int), ?_,
      isUnsigned_sub exact whole number.floor_le⟩
    unfold splitFloat
    rw [finite]
    rfl

theorem splitFloat_of_exact {whole : Nat} {x : Float} (exact : IsExact whole x) :
    ∃ rest, splitFloat x = .ok (whole, rest) ∧ (rest == 0) = true := by
  obtain ⟨number, finite, same⟩ := isExact_iff.mp exact
  have floor := Binary.floor_eq same
  have again : IsExact whole (Float.ofInt (number.floor : Int)) := by
    rw [floor]
    exact isExact_ofNat ⟨_, exact⟩
  refine ⟨x - Float.ofInt (number.floor : Int), ?_, sub_beq_zero exact again⟩
  unfold splitFloat
  rw [finite, ← floor]
  rfl

theorem splitFloat_of_numeric {x : Float} (numeric : IsNumeric x) :
    splitFloat x = .error .outOfRange ∨
      ∃ whole rest, splitFloat x = .ok (whole, rest) ∧ IsNumeric rest := by
  unfold splitFloat
  cases reads : Reading.ofFloat x with
  | notANumber => exact absurd reads (isNumeric_iff.mp numeric)
  | infinite negative => exact .inl rfl
  | finite negative number => exact .inr ⟨_, _, rfl, isNumeric_sub reads (isNumeric_ofInt _)⟩

theorem splitFloat_eq_notANumber_iff {x : Float} :
    splitFloat x = .error .notANumber ↔ ¬ IsNumeric x := by
  constructor
  · intro failed numeric
    rcases splitFloat_of_numeric numeric with outside | ⟨whole, rest, given, -⟩
    · cases outside.symm.trans failed
    · cases given.symm.trans failed
  · intro notNumeric
    have reads := Classical.not_not.mp (mt isNumeric_iff.mpr notNumeric)
    unfold splitFloat
    rw [reads]

/-! ## Adding amounts -/

theorem TimeUnit.isExact_micros (unit : TimeUnit) :
    IsExact unit.micros (Float.ofNat unit.micros) :=
  isExact_ofNat (isFloat_of_lt (by cases unit <;> decide))

theorem TimeUnit.micros_pos (unit : TimeUnit) : 0 < unit.micros := by
  cases unit <;> decide

namespace Sum

/-- What is counted so far is not negative, and neither is the fraction. -/
structure IsUnsigned (sum : Sum) : Prop where
  whole : 0 ≤ sum.whole
  fraction : Decimal.IsUnsigned sum.fraction

theorem isUnsigned_zero : IsUnsigned ⟨0, 0⟩ := ⟨le_rfl, isExact_zero.isUnsigned⟩

variable {sum : Sum} {x : Float}

theorem add_real (sum : Sum) (unit : TimeUnit) (x : Float) :
    sum.add unit (.real x) =
      (splitFloat x).bind fun (whole, rest) =>
        if rest == 0 then .ok { sum with whole := sum.whole + whole * unit.micros }
        else
          (splitFloat (Float.ofNat unit.micros * rest)).bind fun (extra, left) =>
            .ok ⟨sum.whole + whole * unit.micros + extra, sum.fraction + left⟩ := rfl

theorem add_of_unsigned (sound : sum.IsUnsigned) (unit : TimeUnit)
    (unsigned : Decimal.IsUnsigned x) :
    sum.add unit (.real x) = .error .outOfRange ∨
      ∃ next, sum.add unit (.real x) = .ok next ∧ next.IsUnsigned := by
  rw [add_real]
  rcases splitFloat_of_unsigned unsigned with outside | ⟨whole, rest, given, restUnsigned⟩
  · rw [outside]
    exact .inl rfl
  · rw [given]
    have counted : 0 ≤ sum.whole + whole * unit.micros := by
      have nonneg := sound.whole
      positivity
    have scaled : Decimal.IsUnsigned (Float.ofNat unit.micros * rest) :=
      signed_mul unit.isExact_micros (Nat.cast_pos.mpr unit.micros_pos) restUnsigned
    dsimp only [Except.bind]
    split
    · exact .inr ⟨_, rfl, counted, sound.fraction⟩
    · rcases splitFloat_of_unsigned scaled with outside | ⟨extra, left, given, leftUnsigned⟩
      · rw [outside]
        exact .inl rfl
      · rw [given]
        exact .inr ⟨_, rfl, Int.add_nonneg counted (Int.natCast_nonneg extra),
          isUnsigned_add sound.fraction leftUnsigned⟩

theorem add_of_exact {whole : Nat} (exact : IsExact whole x) (unit : TimeUnit) :
    sum.add unit (.real x) = .ok { sum with whole := sum.whole + whole * unit.micros } := by
  obtain ⟨rest, given, none⟩ := splitFloat_of_exact exact
  rw [add_real, given]
  exact if_pos none

/-- Only what is no number makes an amount that is no number. -/
theorem add_of_numeric (numeric : IsNumeric x) (unit : TimeUnit) :
    sum.add unit (.real x) = .error .outOfRange ∨ ∃ next, sum.add unit (.real x) = .ok next := by
  rw [add_real]
  rcases splitFloat_of_numeric numeric with outside | ⟨whole, rest, given, restNumeric⟩
  · rw [outside]
    exact .inl rfl
  · rw [given]
    dsimp only [Except.bind]
    split
    · exact .inr ⟨_, rfl⟩
    · have scaled : IsNumeric (Float.ofNat unit.micros * rest) :=
        signed_mul unit.isExact_micros (Nat.cast_pos.mpr unit.micros_pos) restNumeric
      rcases splitFloat_of_numeric scaled with outside | ⟨extra, left, given, -⟩
      · rw [outside]
        exact .inl rfl
      · rw [given]
        exact .inr ⟨_, rfl⟩

end Sum

theorem nearestEven_nonneg {numerator : Int} (denominator : Nat) (nonneg : 0 ≤ numerator) :
    0 ≤ nearestEven numerator denominator := by
  have below : 0 ≤ numerator.fdiv denominator := Int.fdiv_nonneg nonneg (Int.natCast_nonneg _)
  unfold nearestEven
  dsimp only
  split
  · exact below
  · split
    · omega
    · split <;> omega

theorem nearestEven_mul (whole : Int) {denominator : Nat} (positive : 0 < denominator) :
    nearestEven (whole * denominator) denominator = whole := by
  have nonzero : (denominator : Int) ≠ 0 := by omega
  unfold nearestEven
  dsimp only
  rw [Int.mul_fdiv_cancel _ nonzero, Int.mul_fmod_left, Int.mul_zero, if_pos (by omega)]

theorem Sum.total_nonneg {sum : Sum} (sound : sum.IsUnsigned) : 0 ≤ sum.total := by
  unfold total
  rcases sound.fraction.reading with infinite | ⟨number, finite⟩
  · rw [infinite]
    exact sound.whole
  · rw [finite]
    apply nearestEven_nonneg
    have nonneg := sound.whole
    simp only [Bool.false_eq_true, ↓reduceIte]
    positivity

theorem Sum.total_whole (whole : Int) : Sum.total ⟨whole, 0⟩ = whole := by
  have zero : Reading.ofFloat 0 = .finite false ⟨0, -1074, false⟩ := rfl
  have none : (⟨0, -1074, false⟩ : Binary).fraction.1 = 0 := Nat.zero_mul _
  unfold total
  dsimp only
  rw [zero]
  simp only [none, Bool.false_eq_true, ↓reduceIte, Nat.cast_zero, Int.add_zero]
  exact nearestEven_mul whole (Binary.fraction_pos _)

/-! ## Spans of amounts -/

theorem ofAmounts_whole (unit : TimeUnit) (n : Int) :
    ofAmounts [(unit, .whole n)] = ofMicros? (n * unit.micros) := by
  change ofMicros? (Sum.total ⟨0 + n * unit.micros, 0⟩) = _
  rw [Sum.total_whole, Int.zero_add]

def Sum.addAll (sum : Sum) (amounts : List (TimeUnit × Amount)) : Except Error Sum :=
  amounts.foldlM (fun sum (unit, amount) => sum.add unit amount) sum

theorem Sum.addAll_cons (sum : Sum) (unit : TimeUnit) (amount : Amount)
    (amounts : List (TimeUnit × Amount)) :
    sum.addAll ((unit, amount) :: amounts) =
      (sum.add unit amount).bind fun next => next.addAll amounts :=
  List.foldlM_cons

theorem ofAmounts_eq (amounts : List (TimeUnit × Amount)) :
    ofAmounts amounts = (Sum.addAll ⟨0, 0⟩ amounts).bind fun sum => ofMicros? sum.total := rfl

theorem ofAmounts_of_addAll {amounts : List (TimeUnit × Amount)} {sum : Sum}
    (added : Sum.addAll ⟨0, 0⟩ amounts = .ok sum) : ofAmounts amounts = ofMicros? sum.total := by
  rw [ofAmounts_eq, added]
  rfl

/-- An amount that is a number makes a span or exceeds the limit. -/
theorem ofAmounts_of_numeric {x : Float} (numeric : IsNumeric x) (unit : TimeUnit) :
    ofAmounts [(unit, .real x)] = .error .outOfRange ∨
      ∃ span, ofAmounts [(unit, .real x)] = .ok span := by
  rw [ofAmounts_eq, Sum.addAll_cons]
  rcases Sum.add_of_numeric numeric unit with outside | ⟨next, added⟩
  · rw [outside]
    exact .inl rfl
  · rw [added]
    rcases ofMicros?_eq_ok_or next.total with within | outside
    · exact .inr ⟨_, within⟩
    · exact .inl outside

section Parts

variable {α : Type} (read : α → Float)

theorem Sum.addAll_of_unsigned {parts : List (TimeUnit × α)} {sum : Sum} (sound : sum.IsUnsigned)
    (unsigned : ∀ part ∈ parts, Decimal.IsUnsigned (read part.2)) :
    sum.addAll (parts.map fun (unit, amount) => (unit, .real (read amount))) =
        .error .outOfRange ∨
      ∃ next, sum.addAll (parts.map fun (unit, amount) => (unit, .real (read amount))) =
        .ok next ∧ next.IsUnsigned := by
  induction parts generalizing sum with
  | nil => exact .inr ⟨sum, rfl, sound⟩
  | cons part parts ih =>
    rw [List.map_cons, Sum.addAll_cons]
    rcases Sum.add_of_unsigned sound part.1 (unsigned part List.mem_cons_self) with
      outside | ⟨next, added, nextSound⟩
    · rw [outside]
      exact .inl rfl
    · rw [added]
      exact ih nextSound fun part member => unsigned part (List.mem_cons_of_mem _ member)

/-- **Amounts without a sign** add up to a span that is not negative or exceed the limit. -/
theorem ofAmounts_of_unsigned {parts : List (TimeUnit × α)}
    (unsigned : ∀ part ∈ parts, Decimal.IsUnsigned (read part.2)) :
    ofAmounts (parts.map fun (unit, amount) => (unit, .real (read amount))) = .error .outOfRange ∨
      ∃ span, ofAmounts (parts.map fun (unit, amount) => (unit, .real (read amount))) = .ok span ∧
        0 ≤ span.micros := by
  rw [ofAmounts_eq]
  rcases Sum.addAll_of_unsigned read Sum.isUnsigned_zero unsigned with
    outside | ⟨sum, added, sound⟩
  · rw [outside]
    exact .inl rfl
  · rw [added]
    rcases ofMicros?_eq_ok_or sum.total with within | outside
    · exact .inr ⟨_, within, sum.total_nonneg sound⟩
    · exact .inl outside

theorem Sum.addAll_of_exact (value : α → Nat) {parts : List (TimeUnit × α)} (whole : Int)
    (exact : ∀ part ∈ parts, IsExact (value part.2) (read part.2)) :
    Sum.addAll ⟨whole, 0⟩ (parts.map fun (unit, amount) => (unit, .real (read amount))) =
      .ok ⟨whole + ((parts.map fun (unit, amount) => value amount * unit.micros).sum : Nat), 0⟩ := by
  induction parts generalizing whole with
  | nil => simp [addAll, pure, Except.pure]
  | cons part parts ih =>
    have rest := ih (whole + value part.2 * part.1.micros) fun part member =>
      exact part (List.mem_cons_of_mem _ member)
    rw [List.map_cons, Sum.addAll_cons, Sum.add_of_exact (exact part List.mem_cons_self)]
    refine rest.trans ?_
    rw [List.map_cons, List.sum_cons, Nat.cast_add, Nat.cast_mul, Int.add_assoc]

/-- **Whole amounts** add up exactly. -/
theorem ofAmounts_of_exact (value : α → Nat) {parts : List (TimeUnit × α)}
    (exact : ∀ part ∈ parts, IsExact (value part.2) (read part.2)) :
    ofAmounts (parts.map fun (unit, amount) => (unit, .real (read amount))) =
      ofMicros? ((parts.map fun (unit, amount) => value amount * unit.micros).sum : Nat) := by
  rw [ofAmounts_of_addAll (Sum.addAll_of_exact read value 0 exact), Sum.total_whole, Int.zero_add]

end Parts

end CatalogDelta.Span
