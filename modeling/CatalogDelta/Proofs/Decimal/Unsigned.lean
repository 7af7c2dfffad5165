import CatalogDelta.Proofs.Decimal.Exact

/-!
# Signs of floats

What is read from digits has no sign, and no operation on such numbers brings one in, or makes them
no number at all, as long as no more is taken away than is there.
-/

namespace CatalogDelta.Decimal

open Float.Model Float.Model.UnpackedFloat

/-- A number, finite or not, whose sign is one of those allowed. -/
inductive Signed (allowed : Sign → Prop) : UnpackedFloat → Prop
  | infinity {sign : Sign} (fine : allowed sign) : Signed allowed (.infinity sign)
  | zero {sign : Sign} (fine : allowed sign) : Signed allowed (.zero sign)
  | finite {sign : Sign} {mantissa : Nat} {exponent : Int} {positive : 0 < mantissa}
    (fine : allowed sign) : Signed allowed (.finite sign mantissa exponent positive)

/-- A number without a sign. -/
abbrev Unsigned : UnpackedFloat → Prop := Signed (· = .positive)

/-- A number with or without a sign. -/
abbrev IsNumber : UnpackedFloat → Prop := Signed fun _ => True

namespace Signed

variable {allowed : Sign → Prop} {sign : Sign}

theorem ofFields (fine : allowed sign) {stored : BitVec 11} {bits : BitVec 52}
    (number : stored = -1#11 → bits = 0#52) : Signed allowed (ofFields sign stored bits) := by
  unfold Decimal.ofFields
  split
  · rename_i marked
    rw [if_pos (number marked)]
    exact .infinity fine
  · split
    · split
      · exact .zero fine
      · exact .finite fine
    · exact .finite fine

theorem unpack_packComponents (fine : allowed sign) {stored : BitVec 11} {bits : BitVec 52}
    (number : stored = -1#11 → bits = 0#52) :
    Signed allowed (UnpackedFloat.unpack Format.binary64
      (packComponents Format.binary64 sign stored bits)) := by
  rw [Decimal.unpack_packComponents]
  exact ofFields fine number

/-- Storing keeps the sign. -/
theorem unpack_pack {number : UnpackedFloat} (signed : Signed allowed number) :
    Signed allowed (Float.Model.pack number).unpack := by
  cases signed with
  | @infinity sign fine =>
    rw [unpack_pack_infinity]
    exact .infinity fine
  | @zero sign fine =>
    rw [unpack_pack_zero]
    exact .zero fine
  | @finite sign mantissa exponent positive fine =>
    change Signed allowed (UnpackedFloat.unpack Format.binary64
      (UnpackedFloat.pack Format.binary64 (.finite sign mantissa exponent positive)))
    have bias : Format.binary64.exponentBias = 1023 := by decide
    unfold UnpackedFloat.pack
    rw [bias]
    dsimp only
    split
    · exact unpack_packComponents fine fun _ => rfl
    · rename_i small
      split
      · apply unpack_packComponents fine
        intro marked
        have stored := congrArg BitVec.toNat marked
        rw [BitVec.toNat_ofNat, Nat.mod_eq_of_lt (by omega)] at stored
        have all : (-1#11).toNat = 2047 := rfl
        omega
      · exact unpack_packComponents fine fun marked => absurd marked (by decide)

theorem roundWithAccuracy (fine : allowed sign) (mantissa : Nat) (exponent : Int)
    (accuracy : Accuracy) :
    Signed allowed (roundWithAccuracy Format.binary64 sign mantissa exponent accuracy) := by
  unfold UnpackedFloat.roundWithAccuracy
  dsimp only
  split
  · exact .zero fine
  · exact .finite fine

theorem round (fine : allowed sign) (mantissa : Nat) (exponent : Int) :
    Signed allowed (UnpackedFloat.round Format.binary64 sign mantissa exponent) :=
  roundWithAccuracy fine _ _ _

theorem normalize {whole : Int} (exponent : Int) (nonneg : 0 ≤ whole) (fine : allowed .positive) :
    Signed allowed (UnpackedFloat.normalize Format.binary64 whole exponent .positive) := by
  unfold UnpackedFloat.normalize
  split
  · rename_i negative
    rw [Int.compare_eq_lt] at negative
    omega
  · exact .zero fine
  · exact round fine _ _

end Signed

/-! ## Operations -/

theorem unsigned_finite {mantissa : Nat} {exponent : Int} (positive : 0 < mantissa) :
    Unsigned (.finite .positive mantissa exponent positive) := .finite rfl

namespace Signed

variable {number second : UnpackedFloat}

theorem positive_mul (sign : Sign) : .positive * sign = sign := by
  cases sign <;> rfl

theorem div_positive (sign : Sign) : sign / .positive = sign := by
  cases sign <;> rfl

theorem mul_finite {allowed : Sign → Prop} (signed : Signed allowed number) {mantissa : Nat}
    {exponent : Int} (positive : 0 < mantissa) :
    Signed allowed (UnpackedFloat.mul Format.binary64 (.finite .positive mantissa exponent positive)
      number) := by
  cases signed with
  | infinity fine => exact .infinity ((positive_mul _).symm ▸ fine)
  | zero fine => exact .zero ((positive_mul _).symm ▸ fine)
  | finite fine => exact roundWithAccuracy ((positive_mul _).symm ▸ fine) _ _ _

theorem div_finite {allowed : Sign → Prop} (signed : Signed allowed number) {mantissa : Nat}
    {exponent : Int} (positive : 0 < mantissa) :
    Signed allowed (UnpackedFloat.div Format.binary64 number
      (.finite .positive mantissa exponent positive)) := by
  cases signed with
  | infinity fine => exact .infinity ((div_positive _).symm ▸ fine)
  | zero fine => exact .zero ((div_positive _).symm ▸ fine)
  | finite fine => exact roundWithAccuracy ((div_positive _).symm ▸ fine) _ _ _

theorem add (unsigned : Unsigned number) (unsignedToo : Unsigned second) :
    Unsigned (UnpackedFloat.add Format.binary64 number second) := by
  cases unsigned with
  | infinity fine =>
    subst fine
    cases unsignedToo with
    | infinity fine => subst fine; exact .infinity rfl
    | zero fine => exact .infinity rfl
    | finite fine => exact .infinity rfl
  | zero fine =>
    subst fine
    cases unsignedToo with
    | infinity fine => exact .infinity fine
    | zero fine => subst fine; exact .zero rfl
    | finite fine => exact .finite fine
  | finite fine =>
    subst fine
    cases unsignedToo with
    | infinity fine => exact .infinity fine
    | zero fine => exact .finite rfl
    | finite fine =>
      subst fine
      refine normalize _ ?_ rfl
      exact Int.add_nonneg (Int.natCast_nonneg _) (Int.natCast_nonneg _)

theorem ofScientific (digits : Nat) (power : Int) :
    Unsigned (UnpackedFloat.ofScientific Format.binary64 digits power) := by
  unfold UnpackedFloat.ofScientific
  split
  · exact .zero rfl
  · split
    · exact .infinity rfl
    · split
      · exact .zero rfl
      · split
        · exact mul_finite (unsigned_finite _) _
        · exact div_finite (unsigned_finite _) _

end Signed

theorem Holds.unsigned {value : ℚ} {number : UnpackedFloat} (holds : Holds value number) :
    Unsigned number := by
  cases holds with
  | zero => exact .zero rfl
  | finite fits within => exact .finite rfl

theorem Holds.mul_unsigned {value other : ℚ} {number second : UnpackedFloat}
    (holds : Holds value number) (holdsToo : Holds other second) :
    Unsigned (UnpackedFloat.mul Format.binary64 number second) := by
  cases holds with
  | zero => cases holdsToo <;> exact .zero rfl
  | @finite _ _ positive _ _ => exact holdsToo.unsigned.mul_finite positive

theorem size_decreaseExponent (mantissa : Nat) {exponent target : Int} (le : target ≤ exponent) :
    size (decreaseExponent mantissa exponent target).1 target = size mantissa exponent := by
  unfold decreaseExponent
  dsimp only
  rw [size_shiftLeft]
  congr 1
  omega

theorem le_of_size_le {small large : Nat} {exponent : Int}
    (le : size small exponent ≤ size large exponent) : small ≤ large :=
  Nat.cast_le.mp (le_of_mul_le_mul_right le (zpow_pos two_pos exponent))

/-- What is left of a number if no more than it is taken away has no sign. -/
theorem Holds.sub_unsigned {larger smaller : ℚ} {number second : UnpackedFloat}
    (holds : Holds larger number) (holdsToo : Holds smaller second) (le : smaller ≤ larger) :
    Unsigned (UnpackedFloat.sub Format.binary64 number second) := by
  cases holds with
  | zero =>
    cases holdsToo with
    | zero => exact .zero rfl
    | @finite _ _ positive _ _ => exact absurd (size_pos positive) (not_lt.mpr le)
  | @finite mantissa exponent positive _ _ =>
    cases holdsToo with
    | zero => exact .finite rfl
    | @finite own place ownPositive _ _ =>
      have aligned : (decreaseExponent own place (min exponent place)).1 ≤
          (decreaseExponent mantissa exponent (min exponent place)).1 := by
        have sizes := le
        rw [← size_decreaseExponent own (min_le_right exponent place),
          ← size_decreaseExponent mantissa (min_le_left exponent place)] at sizes
        exact le_of_size_le sizes
      exact Signed.normalize _ (Int.sub_nonneg.mpr (Int.ofNat_le.mpr aligned)) rfl

theorem Holds.sub_self {value : ℚ} {number : UnpackedFloat} (holds : Holds value number) :
    UnpackedFloat.sub Format.binary64 number number = .zero .positive := by
  cases holds with
  | zero => rfl
  | @finite mantissa exponent positive _ _ =>
    unfold UnpackedFloat.sub
    dsimp only
    rw [Int.sub_self]
    rfl

/-! ## Floats -/

/-- The float is a number without a sign. -/
def IsUnsigned (x : Float) : Prop := Unsigned x.toModel.unpack

theorem IsExact.isUnsigned {value : ℚ} {x : Float} (exact : IsExact value x) : IsUnsigned x :=
  Holds.unsigned exact

theorem IsUnsigned.reading {x : Float} (unsigned : IsUnsigned x) :
    Reading.ofFloat x = .infinite false ∨ ∃ number, Reading.ofFloat x = .finite false number := by
  rw [Reading.ofFloat_eq]
  unfold IsUnsigned at unsigned
  generalize x.toModel.unpack = number at unsigned
  cases unsigned with
  | infinity fine => exact .inl (by rw [fine]; rfl)
  | zero fine => exact .inr ⟨_, by rw [fine]; rfl⟩
  | finite fine => exact .inr ⟨_, by rw [fine]; rfl⟩

theorem isUnsigned_pack {number : UnpackedFloat} (unsigned : Unsigned number) :
    IsUnsigned ⟨Float.Model.pack number⟩ :=
  unsigned.unpack_pack

theorem signed_mul {allowed : Sign → Prop} {value : ℚ} {x y : Float} (exact : IsExact value x)
    (positive : 0 < value) (signed : Signed allowed y.toModel.unpack) :
    Signed allowed (x * y).toModel.unpack := by
  obtain ⟨mantissa, exponent, present, same, -, -, -⟩ := Holds.exists_of_pos exact positive
  change Signed allowed (Float.Model.pack (UnpackedFloat.mul Format.binary64 x.toModel.unpack
    y.toModel.unpack)).unpack
  rw [same]
  exact (signed.mul_finite present).unpack_pack

theorem isUnsigned_div {value : ℚ} {x y : Float} (unsigned : IsUnsigned x) (exact : IsExact value y)
    (positive : 0 < value) : IsUnsigned (x / y) := by
  obtain ⟨mantissa, exponent, present, same, -, -, -⟩ := Holds.exists_of_pos exact positive
  change IsUnsigned ⟨Float.Model.pack (UnpackedFloat.div Format.binary64 x.toModel.unpack
    y.toModel.unpack)⟩
  rw [same]
  exact isUnsigned_pack (Signed.div_finite unsigned present)

theorem isUnsigned_add {x y : Float} (unsigned : IsUnsigned x) (unsignedToo : IsUnsigned y) :
    IsUnsigned (x + y) :=
  isUnsigned_pack (unsigned.add unsignedToo)

theorem isUnsigned_sub {larger smaller : ℚ} {x y : Float} (exact : IsExact larger x)
    (exactToo : IsExact smaller y) (le : smaller ≤ larger) : IsUnsigned (x - y) :=
  isUnsigned_pack (Holds.sub_unsigned exact exactToo le)

theorem isUnsigned_ofScientific (digits : Nat) (down : Bool) (power : Nat) :
    IsUnsigned (Float.ofScientific digits down power) := by
  unfold Float.ofScientific
  split
  · rename_i small
    have exact := isExact_toFloat small.1
    have ten := isExact_powerOfTen (Nat.lt_succ_iff.mpr small.2)
    have positive : 0 < ((10 ^ power : Nat) : ℚ) := Nat.cast_pos.mpr (Nat.pow_pos (by decide))
    dsimp only
    split
    · exact isUnsigned_div exact.isUnsigned ten positive
    · exact isUnsigned_pack (exact.mul_unsigned ten)
  · exact isUnsigned_pack (Signed.ofScientific _ _)

theorem isUnsigned_nearestFloat (units : Nat) (power : Int) :
    IsUnsigned (nearestFloat false units power) := by
  have endless : IsUnsigned (1.0 / 0.0) := by
    have infinite : (1.0 / 0.0 : Float).toModel.unpack = .infinity .positive := rfl
    unfold IsUnsigned
    rw [infinite]
    exact .infinity rfl
  unfold nearestFloat
  simp only [Bool.false_eq_true, ↓reduceIte]
  split
  · exact isExact_zero.isUnsigned
  · split
    · exact endless
    · split
      · exact isExact_zero.isUnsigned
      · split
        · exact isUnsigned_ofScientific units true _
        · exact isUnsigned_ofScientific units false _

/-- Nothing is left of a number that is taken from itself. -/
theorem sub_beq_zero {value : ℚ} {x y : Float} (exact : IsExact value x)
    (exactToo : IsExact value y) : (x - y == 0) = true := by
  have same := Holds.unique exact exactToo
  have none : IsExact 0 (x - y) := by
    change IsExact 0 ⟨Float.Model.pack (UnpackedFloat.sub Format.binary64 x.toModel.unpack
      y.toModel.unpack)⟩
    rw [← same, Holds.sub_self exact]
    exact isExact_pack .zero
  change UnpackedFloat.beq (x - y).toModel.unpack (0 : Float).toModel.unpack = true
  rw [Holds.eq_zero none rfl, Holds.eq_zero isExact_zero rfl]
  rfl

/-! ## Numbers with a sign -/

/-- The float is a number. -/
def IsNumeric (x : Float) : Prop := IsNumber x.toModel.unpack

theorem Signed.isNumber {allowed : Sign → Prop} {number : UnpackedFloat}
    (signed : Signed allowed number) : IsNumber number := by
  cases signed with
  | infinity fine => exact .infinity trivial
  | zero fine => exact .zero trivial
  | finite fine => exact .finite trivial

theorem isNumeric_iff {x : Float} : IsNumeric x ↔ Reading.ofFloat x ≠ .notANumber := by
  rw [Reading.ofFloat_eq, IsNumeric]
  cases x.toModel.unpack with
  | infinity sign => exact ⟨fun _ => nofun, fun _ => .infinity trivial⟩
  | notANumber => exact ⟨nofun, fun numeric => absurd rfl numeric⟩
  | zero sign => exact ⟨fun _ => nofun, fun _ => .zero trivial⟩
  | finite sign => exact ⟨fun _ => nofun, fun _ => .finite trivial⟩

theorem isNumber_normalize (whole exponent : Int) :
    IsNumber (UnpackedFloat.normalize Format.binary64 whole exponent .positive) := by
  unfold UnpackedFloat.normalize
  split
  · exact Signed.round trivial _ _
  · exact .zero trivial
  · exact Signed.round trivial _ _

theorem isNumber_neg {number : UnpackedFloat} (numeric : IsNumber number) :
    IsNumber number.neg := by
  cases numeric with
  | infinity fine => exact .infinity trivial
  | zero fine => exact .zero trivial
  | finite fine => exact .finite trivial

theorem isNumeric_ofInt (whole : Int) : IsNumeric (Float.ofInt whole) := by
  cases whole with
  | ofNat whole => exact Signed.isNumber (isUnsigned_ofScientific whole false 0)
  | negSucc whole =>
    have numeric : IsNumeric (Float.ofNat (whole + 1)) :=
      Signed.isNumber (isUnsigned_ofScientific (whole + 1) false 0)
    exact (isNumber_neg numeric).unpack_pack

theorem isNumber_sub {first second : UnpackedFloat} {negative : Bool} {number : Binary}
    (finite : Reading.ofNumber first = .finite negative number) (numeric : IsNumber second) :
    IsNumber (UnpackedFloat.sub Format.binary64 first second) := by
  cases first with
  | notANumber => cases finite
  | infinity sign => cases finite
  | zero sign =>
    cases numeric with
    | infinity fine => exact .infinity trivial
    | zero fine =>
      unfold UnpackedFloat.sub
      dsimp only
      split <;> exact .zero trivial
    | finite fine => exact .finite trivial
  | finite sign mantissa exponent positive =>
    cases numeric with
    | infinity fine => exact .infinity trivial
    | zero fine => exact .finite trivial
    | finite fine => exact isNumber_normalize _ _

/-- Of a finite number something is left whatever is taken away. -/
theorem isNumeric_sub {x y : Float} {negative : Bool} {number : Binary}
    (finite : Reading.ofFloat x = .finite negative number) (numeric : IsNumeric y) :
    IsNumeric (x - y) := by
  rw [Reading.ofFloat_eq] at finite
  exact (isNumber_sub finite numeric).unpack_pack

end CatalogDelta.Decimal
