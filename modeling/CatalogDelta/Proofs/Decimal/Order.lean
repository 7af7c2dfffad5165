import CatalogDelta.Proofs.Decimal.Exact

/-!
# Whole numbers in order

Two whole numbers may become one float, but they never change places: the floats without a sign
stand in a row, and the place of a whole number in it does not go down as the number goes up. Main
statements: `place_mono`, `ofNat_lt_iff`.
-/

namespace CatalogDelta.Decimal

open Float.Model Float.Model.UnpackedFloat

/-! ## The row of floats -/

section Row

variable {own other : Int} {number second : UnpackedFloat}

theorem Fits.bounds {mantissa : Nat} {exponent : Int} (fits : Fits mantissa exponent)
    (positive : 0 < mantissa) :
    mantissa < 2 ^ 53 ∧ -1074 ≤ exponent ∧ (exponent = -1074 ∨ 2 ^ 52 ≤ mantissa) := by
  unfold Fits at fits
  have short : mantissa.log2 < 53 := by omega
  refine ⟨(Nat.log2_lt positive.ne').mp short, by omega, ?_⟩
  by_cases full : mantissa.log2 = 52
  · exact .inr ((Nat.log2_eq_iff positive.ne').mp full).1
  · exact .inl (by omega)

theorem fits_of_full {mantissa : Nat} {exponent : Int} (full : 2 ^ 52 ≤ mantissa)
    (short : mantissa < 2 ^ 53) (least : -1074 ≤ exponent) : Fits mantissa exponent := by
  have length : mantissa.log2 = 52 := (Nat.log2_eq_iff (by omega)).mpr ⟨full, short⟩
  unfold Fits
  omega

/-- The place of a float without a sign in the row of all of them. -/
inductive StandsAt : Int → UnpackedFloat → Prop
  | zero : StandsAt (-1074 * 2 ^ 52) (.zero .positive)
  | finite {mantissa : Nat} {exponent : Int} {positive : 0 < mantissa}
    (fits : Fits mantissa exponent) (within : exponent ≤ 971) :
    StandsAt (exponent * 2 ^ 52 + mantissa) (.finite .positive mantissa exponent positive)
  | infinity : StandsAt (973 * 2 ^ 52) (.infinity .positive)

/-- A float is less than another where it stands before it. -/
theorem StandsAt.lt_iff (stands : StandsAt own number) (standsToo : StandsAt other second) :
    number.lt second = true ↔ own < other := by
  unfold UnpackedFloat.lt
  rw [beq_iff_eq]
  cases stands with
  | zero =>
    cases standsToo with
    | zero => exact ⟨nofun, fun less => absurd less (lt_irrefl _)⟩
    | @finite mantissa exponent positive fits within =>
      obtain ⟨-, least, -⟩ := fits.bounds positive
      exact ⟨fun _ => by omega, fun _ => rfl⟩
    | infinity => exact ⟨fun _ => by decide, fun _ => rfl⟩
  | @finite mantissa exponent positive fits within =>
    obtain ⟨short, least, full⟩ := fits.bounds positive
    cases standsToo with
    | zero => exact ⟨nofun, fun less => by omega⟩
    | @finite whole place wholePositive fitsToo withinToo =>
      obtain ⟨shortToo, leastToo, fullToo⟩ := fitsToo.bounds wholePositive
      change some ((compare exponent place).then (compare mantissa whole)) = some .lt ↔ _
      rw [Option.some_inj, Ordering.then_eq_lt, Int.compare_eq_lt, Int.compare_eq_eq,
        Nat.compare_eq_lt]
      omega
    | infinity => exact ⟨fun _ => by omega, fun _ => rfl⟩
  | infinity =>
    cases standsToo with
    | zero => exact ⟨nofun, fun less => absurd less (by decide)⟩
    | @finite mantissa exponent positive fits within =>
      obtain ⟨short, -, -⟩ := fits.bounds positive
      exact ⟨nofun, fun less => by omega⟩
    | infinity => exact ⟨nofun, fun less => absurd less (lt_irrefl _)⟩

theorem StandsAt.unpack_pack (stands : StandsAt own number) :
    (Float.Model.pack number).unpack = number := by
  cases stands with
  | zero => exact unpack_pack_zero .positive
  | finite fits within => exact unpack_pack_finite fits within
  | infinity => exact unpack_pack_infinity .positive

/-- Two floats do not stand at one place. -/
theorem StandsAt.unique (stands : StandsAt own number) (standsToo : StandsAt other second)
    (same : own = other) : number = second := by
  cases stands with
  | zero =>
    cases standsToo with
    | zero => rfl
    | @finite _ _ positive fits _ =>
      have := fits.bounds positive
      omega
    | infinity => exact absurd same (by decide)
  | @finite mantissa exponent positive fits within =>
    have := fits.bounds positive
    cases standsToo with
    | zero => omega
    | @finite whole place wholePositive fitsToo withinToo =>
      have := fitsToo.bounds wholePositive
      obtain rfl : exponent = place := by omega
      obtain rfl : mantissa = whole := by omega
      rfl
    | infinity => omega
  | infinity =>
    cases standsToo with
    | zero => exact absurd same (by decide)
    | @finite _ _ positive fits _ =>
      have := fits.bounds positive
      omega
    | infinity => rfl

/-- What is too large for a finite float is stored as infinity. -/
theorem pack_of_large {mantissa : Nat} {exponent : Int} {positive : 0 < mantissa}
    (large : 971 < exponent) :
    Float.Model.pack (.finite .positive mantissa exponent positive) =
      Float.Model.pack (.infinity .positive) := by
  have bias : Format.binary64.exponentBias = 1023 := by decide
  have packed : UnpackedFloat.pack Format.binary64 (.finite .positive mantissa exponent positive) =
      UnpackedFloat.pack Format.binary64 (.infinity .positive) := by
    unfold UnpackedFloat.pack
    rw [bias]
    dsimp only
    rw [if_pos (by omega)]
  unfold Float.Model.pack
  simp only [packed]

end Row

/-! ## Rounding -/

/-- A mantissa and the two bits beside it as one number. -/
def withBits (extended : ExtendedMantissa) : Nat :=
  4 * extended.mantissa + 2 * extended.roundBit.toNat + extended.stickyBit.toNat

theorem withBits_shiftRightOne (extended : ExtendedMantissa) :
    withBits extended.shiftRightOne =
      2 * (withBits extended / 4) + min 1 (withBits extended % 4) := by
  obtain ⟨mantissa, round, sticky⟩ := extended
  have odd : (mantissa % 2 != 0).toNat = mantissa % 2 := by
    rcases Nat.mod_two_eq_zero_or_one mantissa with even | odd
    · rw [even]
      rfl
    · rw [odd]
      rfl
  unfold withBits ExtendedMantissa.shiftRightOne
  dsimp only
  rw [odd]
  cases round <;> cases sticky <;> simp only [Bool.or_self, Bool.or_true, Bool.true_or,
    Bool.toNat_false, Bool.toNat_true] <;> omega

theorem withBits_shiftRight_mono {small large : ExtendedMantissa}
    (le : withBits small ≤ withBits large) (shift : Nat) :
    withBits (small >>> shift) ≤ withBits (large >>> shift) := by
  change withBits (Nat.repeat ExtendedMantissa.shiftRightOne shift small) ≤
    withBits (Nat.repeat ExtendedMantissa.shiftRightOne shift large)
  induction shift with
  | zero => exact le
  | succ shift ih =>
    rw [Nat.repeat, Nat.repeat, withBits_shiftRightOne, withBits_shiftRightOne]
    omega

theorem roundedMantissa_eq (extended : ExtendedMantissa) :
    extended.roundedMantissa = withBits extended / 4 +
      (withBits extended % 4 + extended.mantissa % 2 + 1) / 4 := by
  obtain ⟨mantissa, round, sticky⟩ := extended
  unfold withBits
  cases round <;> cases sticky <;> simp only [ExtendedMantissa.roundedMantissa,
    ExtendedMantissa.accuracy, Accuracy.roundToNearestEven, Bool.toNat_false, Bool.toNat_true] <;>
    omega

theorem withBits_div (extended : ExtendedMantissa) : withBits extended / 4 = extended.mantissa := by
  have round := extended.roundBit.toNat_le
  have sticky := extended.stickyBit.toNat_le
  unfold withBits
  omega

/-- What is rounded keeps its order. -/
theorem roundedMantissa_mono {small large : ExtendedMantissa}
    (le : withBits small ≤ withBits large) : small.roundedMantissa ≤ large.roundedMantissa := by
  have smallWhole := withBits_div small
  have largeWhole := withBits_div large
  rw [roundedMantissa_eq, roundedMantissa_eq]
  rcases (Nat.div_le_div_right (c := 4) le).lt_or_eq with less | same
  · omega
  · rw [smallWhole, largeWhole] at same
    rw [same]
    omega

theorem le_roundedMantissa (extended : ExtendedMantissa) :
    extended.mantissa ≤ extended.roundedMantissa := by
  unfold ExtendedMantissa.roundedMantissa Accuracy.roundToNearestEven
  split <;> omega

/-! ## Whole numbers -/

section Whole

variable {whole small large : Nat}

/-- The first fifty-three binary digits of a whole number, before and after the rounding. -/
def leading (whole : Nat) : ExtendedMantissa :=
  (⟨whole <<< 53, false, false⟩ : ExtendedMantissa) >>> (whole.log2 + 1)

theorem mantissa_leading (positive : 0 < whole) :
    2 ^ 52 ≤ (leading whole).mantissa ∧ (leading whole).mantissa < 2 ^ 53 := by
  obtain ⟨low, high⟩ := (Nat.log2_eq_iff positive.ne').mp rfl
  have power := Nat.two_pow_pos (whole.log2 + 1)
  unfold leading
  rw [mantissa_shiftRight, Nat.shiftLeft_eq, Nat.le_div_iff_mul_le power, Nat.div_lt_iff_lt_mul power]
  rw [Nat.pow_succ] at high ⊢
  dsimp only
  omega

theorem roundedMantissa_leading (positive : 0 < whole) :
    2 ^ 52 ≤ (leading whole).roundedMantissa ∧ (leading whole).roundedMantissa ≤ 2 ^ 53 := by
  obtain ⟨full, short⟩ := mantissa_leading positive
  have least := le_roundedMantissa (leading whole)
  have most := roundedMantissa_le (leading whole)
  omega

/-- The place of a whole number in the row of floats. -/
def place (whole : Nat) : Int :=
  if whole = 0 then -1074 * 2 ^ 52
  else min ((whole.log2 - 52) * 2 ^ 52 + (leading whole).roundedMantissa) (973 * 2 ^ 52)

/-- **A larger whole number does not stand before a smaller one.** -/
theorem place_mono : Monotone place := by
  intro small large le
  unfold place
  rcases Nat.eq_zero_or_pos small with rfl | positive
  · rw [if_pos rfl]
    split
    · exact le_rfl
    · have least := (roundedMantissa_leading (Nat.pos_of_ne_zero ‹_›)).1
      omega
  · have positiveToo := Nat.lt_of_lt_of_le positive le
    rw [if_neg positive.ne', if_neg positiveToo.ne']
    refine min_le_min_right _ ?_
    have most := (roundedMantissa_leading positive).2
    have least := (roundedMantissa_leading positiveToo).1
    rcases (log2_mono le).lt_or_eq with longer | same
    · omega
    · have shifted :
          withBits ⟨small <<< 53, false, false⟩ ≤ withBits ⟨large <<< 53, false, false⟩ := by
        unfold withBits
        rw [Nat.shiftLeft_eq, Nat.shiftLeft_eq]
        dsimp only
        omega
      have rounded : (leading small).roundedMantissa ≤ (leading large).roundedMantissa := by
        apply roundedMantissa_mono
        unfold leading
        rw [same]
        exact withBits_shiftRight_mono shifted _
      omega

/-- A mantissa that was rounded up to one bit too many has a zero there. -/
theorem shiftToTargetExponent_full {mantissa : Nat} {exponent : Int} (full : 2 ^ 52 ≤ mantissa)
    (short : mantissa ≤ 2 ^ 53) (least : -1074 ≤ exponent) :
    ∃ last own, shiftToTargetExponent Format.binary64 mantissa exponent .exact =
        (⟨last, false, false⟩, own) ∧ 2 ^ 52 ≤ last ∧ last < 2 ^ 53 ∧ exponent ≤ own ∧
      own * 2 ^ 52 + last = exponent * 2 ^ 52 + mantissa := by
  rcases short.lt_or_eq with short | rfl
  · have fits := fits_of_full full short least
    refine ⟨mantissa, exponent, ?_, full, short, le_rfl, rfl⟩
    have same := shiftToTargetExponent_shiftLeft (by omega) fits 0
    rwa [Nat.shiftLeft_zero, Int.ofNat_zero, Int.sub_zero] at same
  · refine ⟨2 ^ 52, exponent + 1, ?_, le_rfl, by decide, by omega, by omega⟩
    have fits : Fits (2 ^ 52) (exponent + 1) := fits_of_full le_rfl (by decide) (by omega)
    have same := shiftToTargetExponent_shiftLeft (by decide) fits 1
    rwa [Int.ofNat_one, Int.add_sub_cancel] at same

/-- A whole number is brought to fifty-three digits with the exponent that belongs to them. -/
theorem shiftToTargetExponent_whole (positive : 0 < whole) :
    shiftToTargetExponent Format.binary64 (whole <<< 53) (-53) .exact =
      (leading whole, (whole.log2 : Int) - 52) := by
  have target : Format.binary64.targetExponent (totalExponent (whole <<< 53) (-53)) =
      whole.log2 - 52 := by
    change max (((whole <<< 53).log2 : Int) + 1 + -53 - 53) (-1074) = _
    rw [log2_shiftLeft positive]
    omega
  have amount : ((whole.log2 : Int) - 52 - -53).toNat = whole.log2 + 1 := by omega
  unfold shiftToTargetExponent shiftToExponent
  rw [target]
  dsimp only
  rw [amount]
  exact Prod.ext rfl (by dsimp only; omega)

/-- A whole number other than zero is rounded to one with the place of the whole number. -/
theorem ofScientific_pos (positive : 0 < whole) :
    ∃ mantissa exponent present, UnpackedFloat.ofScientific Format.binary64 whole 0 =
        .finite .positive mantissa exponent present ∧ Fits mantissa exponent ∧
      exponent * 2 ^ 52 + mantissa =
        (whole.log2 - 52) * 2 ^ 52 + (leading whole).roundedMantissa := by
  obtain ⟨full, short⟩ := roundedMantissa_leading positive
  have least : -1074 ≤ (whole.log2 : Int) - 52 := by omega
  obtain ⟨last, own, final, fullToo, shortToo, le, same⟩ :=
    shiftToTargetExponent_full full short least
  have present : 0 < last := by omega
  refine ⟨last, own, present, ?_, fits_of_full fullToo shortToo (by omega), same⟩
  have notTiny : ¬ (0 : Int) < -(2 ^ 11 + whole.log2) := by omega
  unfold UnpackedFloat.ofScientific
  rw [dif_neg positive.ne', if_neg (by decide), if_neg notTiny, if_pos le_rfl]
  change roundWithAccuracy Format.binary64 .positive (whole <<< 53 * 1) (-53) .exact = _
  unfold roundWithAccuracy
  rw [Nat.mul_one, shiftToTargetExponent_whole positive]
  dsimp only
  rw [final]
  exact dif_neg present.ne'

theorem ofNat_eq_pack (whole : Nat) :
    Float.ofNat whole =
      ⟨Float.Model.pack (UnpackedFloat.ofScientific Format.binary64 whole 0)⟩ := by
  change Float.ofScientific whole false 0 = _
  unfold Float.ofScientific
  split
  · rename_i few
    have read := isExact_toFloat few.1
    have one : Float.exactlyRepresentablePowersOfTen[0].toModel.unpack =
        .finite .positive (2 ^ 52) (-52) (by decide) := rfl
    change (⟨Float.Model.pack (UnpackedFloat.mul Format.binary64
      whole.toUInt64.toFloat.toModel.unpack
      Float.exactlyRepresentablePowersOfTen[0].toModel.unpack)⟩ : Float) = _
    rw [one, Holds.mul_unit read, ofScientific_eq read]
  · rfl

/-- The float of a whole number stands at the place of the number. -/
theorem exists_standsAt (whole : Nat) :
    ∃ number, StandsAt (place whole) number ∧ Float.ofNat whole = ⟨Float.Model.pack number⟩ := by
  rw [ofNat_eq_pack, place]
  rcases Nat.eq_zero_or_pos whole with rfl | positive
  · exact ⟨_, .zero, rfl⟩
  · obtain ⟨mantissa, exponent, present, rounded, fits, same⟩ := ofScientific_pos positive
    have bounds := fits.bounds present
    rw [if_neg positive.ne', rounded, ← same]
    by_cases within : exponent ≤ 971
    · rw [min_eq_left (by omega)]
      exact ⟨_, .finite fits within, rfl⟩
    · rw [min_eq_right (by omega), pack_of_large (by omega)]
      exact ⟨_, .infinity, rfl⟩

/-- **The float of a whole number is less than another where it stands before it.** -/
theorem ofNat_lt_iff : Float.ofNat small < Float.ofNat large ↔ place small < place large := by
  obtain ⟨number, stands, same⟩ := exists_standsAt small
  obtain ⟨second, standsToo, sameToo⟩ := exists_standsAt large
  have compared : (Float.Model.pack number).unpack.lt (Float.Model.pack second).unpack = true ↔
      place small < place large := by
    rw [stands.unpack_pack, standsToo.unpack_pack]
    exact stands.lt_iff standsToo
  rw [same, sameToo]
  exact decide_eq_true_iff.trans compared

theorem ofNat_eq_of_place_eq (same : place small = place large) :
    Float.ofNat small = Float.ofNat large := by
  obtain ⟨number, stands, made⟩ := exists_standsAt small
  obtain ⟨second, standsToo, madeToo⟩ := exists_standsAt large
  rw [made, madeToo, stands.unique standsToo same]

/-- The larger of two whole numbers is found among their floats. -/
theorem ofNat_max (first second : Nat) :
    Float.ofNat (max first second) =
      if Float.ofNat first < Float.ofNat second then Float.ofNat second else Float.ofNat first := by
  simp only [ofNat_lt_iff]
  rcases le_total first second with le | le
  · rw [max_eq_right le]
    split
    · rfl
    · exact ofNat_eq_of_place_eq ((not_lt.mp ‹_›).antisymm (place_mono le))
  · rw [max_eq_left le, if_neg (place_mono le).not_gt]

/-- The smaller of two whole numbers is found among their floats. -/
theorem ofNat_min (first second : Nat) :
    Float.ofNat (min first second) =
      if Float.ofNat second < Float.ofNat first then Float.ofNat second else Float.ofNat first := by
  simp only [ofNat_lt_iff]
  rcases le_total first second with le | le
  · rw [min_eq_left le, if_neg (place_mono le).not_gt]
  · rw [min_eq_right le]
    split
    · rfl
    · exact ofNat_eq_of_place_eq ((place_mono le).antisymm (not_lt.mp ‹_›))

end Whole

end CatalogDelta.Decimal
