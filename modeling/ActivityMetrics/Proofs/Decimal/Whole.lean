import ActivityMetrics.Result.Datum
import Mathlib

/-!
# Whole numbers as floating-point numbers

A positive number is read as a floating-point number that is not zero
(`Decimal.ofInt_beq_zero_iff`): its leading bit is kept when it is rounded, so it becomes a normal
number, or infinity if it is too large. This is all that the quotient of two counts depends on when
it asks whether the second is zero. A number of up to a thousand bits is not too large
(`Decimal.finite_unpack_ofNat`).

The way from a whole number to a floating-point one is short for small numbers and long for others,
with roundings on the way that cannot be calculated in general. So the argument follows one property
along it, that there is a leading bit in its place. Rounding may change the bits behind and may
carry into one more bit, but it does not take the leading bit away; packing forgets the leading bit
and unpacking puts it back, as long as the exponent is not one of the two special ones.
-/

namespace ActivityMetrics.Decimal

open Float.Model Float.Model.UnpackedFloat

/-- A floating-point number is infinite, or has a leading bit and an exponent of the format. It is
what remains true of a positive number however large it is. -/
inductive Normal : UnpackedFloat → Prop where
  /-- The number is infinite. -/
  | infinity (s : Sign) : Normal (.infinity s)
  /-- The number has a leading bit. -/
  | finite (s : Sign) (m : Nat) (e : Int) (pos : 0 < m) (leading : m.log2 = 52)
    (least : -1074 ≤ e) : Normal (.finite s m e pos)

/-- A floating-point number has a leading bit and an exponent of the format up to a greatest one.
The bound grows by one with each rounding, so it is kept as a number and not only as being
finite. -/
inductive Finite (greatest : Int) : UnpackedFloat → Prop where
  /-- The number has a leading bit. -/
  | intro (s : Sign) (m : Nat) (e : Int) (pos : 0 < m) (leading : m.log2 = 52) (least : -1074 ≤ e)
    (most : e ≤ greatest) : Finite greatest (.finite s m e pos)

theorem Finite.normal {greatest : Int} {x : UnpackedFloat} (h : Finite greatest x) : Normal x := by
  cases h with
  | intro s m e pos leading least => exact .finite s m e pos leading least

theorem Finite.mono {greatest greatest' : Int} {x : UnpackedFloat} (h : Finite greatest x)
    (le : greatest ≤ greatest') : Finite greatest' x := by
  cases h with
  | intro s m e pos leading least most => exact .intro s m e pos leading least (most.trans le)

/-! ## Rounding

A mantissa is shifted to its width, and rounded by the bits that were dropped. All that matters is
where its leading bit is afterwards. -/

/-- A shift divides by a power of two. -/
theorem mantissa_shiftRight (em : ExtendedMantissa) (k : Nat) :
    (em >>> k).mantissa = em.mantissa / 2 ^ k := by
  show (k.repeat ExtendedMantissa.shiftRightOne em).mantissa = _
  induction k with
  | zero => exact (Nat.div_one _).symm
  | succ k ih =>
    show (k.repeat ExtendedMantissa.shiftRightOne em).mantissa / 2 = _
    rw [ih, Nat.div_div_eq_div_mul, Nat.pow_succ]

/-- Rounding drops nothing but the bits behind. -/
theorem le_roundedMantissa (em : ExtendedMantissa) : em.mantissa ≤ em.roundedMantissa := by
  obtain ⟨m, round, sticky⟩ := em
  cases round <;> cases sticky <;>
    simp only [ExtendedMantissa.roundedMantissa, ExtendedMantissa.accuracy,
      Accuracy.roundToNearestEven] <;> omega

/-- Rounding adds one at most. -/
theorem roundedMantissa_le (em : ExtendedMantissa) : em.roundedMantissa ≤ em.mantissa + 1 := by
  obtain ⟨m, round, sticky⟩ := em
  cases round <;> cases sticky <;>
    simp only [ExtendedMantissa.roundedMantissa, ExtendedMantissa.accuracy,
      Accuracy.roundToNearestEven] <;> omega

/-- The exponent of a number with so many bits, which is bounded from below. -/
theorem targetExponent_eq (t : Int) :
    Format.binary64.targetExponent t = max (t - 53) (-1074) :=
  rfl

/-- The leading bit and those behind it are kept, if as many bits are dropped as there are too
many. -/
theorem log2_div_pow {m k : Nat} (h : m.log2 = 52 + k) : (m / 2 ^ k).log2 = 52 := by
  have pos : m ≠ 0 := by
    rintro rfl
    simp at h
    omega
  obtain ⟨low, high⟩ := (Nat.log2_eq_iff pos).1 h
  have least : 2 ^ 52 ≤ m / 2 ^ k := by
    rw [Nat.le_div_iff_mul_le (Nat.two_pow_pos k), ← Nat.pow_add]
    exact low
  have greatest : m / 2 ^ k < 2 ^ (52 + 1) := by
    rw [Nat.div_lt_iff_lt_mul (Nat.two_pow_pos k), ← Nat.pow_add]
    rwa [show 52 + 1 + k = 52 + k + 1 by omega]
  exact (Nat.log2_eq_iff (by omega)).2 ⟨least, greatest⟩

/-- The shift to the exponent of the format. -/
theorem shiftToTargetExponent_eq {m : Nat} {e : Int} (k : Nat) (bits : m.log2 = 52 + k)
    (least : -1074 ≤ e + k) :
    ∃ em : ExtendedMantissa, shiftToTargetExponent Format.binary64 m e .exact = (em, e + k) ∧
      em.mantissa = m / 2 ^ k := by
  have amount : (Format.binary64.targetExponent (totalExponent m e) - e).toNat = k := by
    rw [targetExponent_eq, totalExponent, bits]
    omega
  refine ⟨ExtendedMantissa.ofMantissaAndAccuracy m .exact >>> k, ?_, mantissa_shiftRight _ _⟩
  simp only [shiftToTargetExponent, shiftToExponent, amount]

/-- Rounding adds a bit at most, and does so only if all bits are ones. -/
theorem exists_log2_roundedMantissa {em : ExtendedMantissa} (h : em.mantissa.log2 = 52) :
    ∃ j : Nat, em.roundedMantissa.log2 = 52 + j ∧ j ≤ 1 := by
  have pos : em.mantissa ≠ 0 := by
    intro zero
    rw [zero, Nat.log2_zero] at h
    cases h
  obtain ⟨low, high⟩ := (Nat.log2_eq_iff pos).1 h
  have rounded := le_roundedMantissa em
  have above := roundedMantissa_le em
  have least : 52 ≤ em.roundedMantissa.log2 :=
    (Nat.le_log2 (by omega)).2 (Nat.le_trans low rounded)
  have most : em.roundedMantissa.log2 < 54 := (Nat.log2_lt (by omega)).2 (by omega)
  exact ⟨em.roundedMantissa.log2 - 52, by omega, by omega⟩

/-- **A number with enough bits is rounded to one with a leading bit**, and with an exponent that is
at most one greater. -/
theorem finite_roundWithAccuracy {m k : Nat} {e : Int} (s : Sign) (bits : m.log2 = 52 + k)
    (least : -1074 ≤ e + k) :
    Finite (e + k + 1) (roundWithAccuracy Format.binary64 s m e .exact) := by
  obtain ⟨em, first, mantissa⟩ := shiftToTargetExponent_eq k bits least
  -- rounding up may add a bit, and then there is a second shift
  obtain ⟨j, rounded, one⟩ : ∃ j : Nat, em.roundedMantissa.log2 = 52 + j ∧ j ≤ 1 :=
    exists_log2_roundedMantissa (mantissa ▸ log2_div_pow bits)
  obtain ⟨em', second, mantissa'⟩ :=
    shiftToTargetExponent_eq (e := e + k) j rounded (by omega)
  have leading : em'.mantissa.log2 = 52 := mantissa' ▸ log2_div_pow rounded
  have pos : em'.mantissa ≠ 0 := by
    intro zero
    rw [zero, Nat.log2_zero] at leading
    cases leading
  simp only [roundWithAccuracy, first, second, dif_neg pos]
  exact .intro s _ _ _ leading (by omega) (by omega)

/-! ## Packing

A leading bit is not stored. It is known from the exponent, so what is stored for a normal number
has an exponent between the two special ones, or is infinite. -/

/-- A normal number is not zero. -/
theorem Normal.compare_zero {x : UnpackedFloat} (h : Normal x) (s : Sign) :
    x.compare (.zero s) ≠ some .eq := by
  cases h with
  | infinity s' | finite s' => cases s' <;> nofun

theorem normal_unpack_packedInfinity (s : Sign) :
    Normal (UnpackedFloat.unpack Format.binary64 (packedInfinity Format.binary64 s)) := by
  simp only [UnpackedFloat.unpack, packedInfinity, unpackExponent_packComponents,
    unpackMantissa_packComponents, if_pos]
  exact .infinity _

/-- An exponent between the two special ones stands for a leading bit. -/
theorem finite_unpack_packComponents (s : Sign) {b : Nat} (m : BitVec 52) (low : 1 ≤ b)
    (high : b + 1 < 2 ^ 11) :
    Finite ((b : Int) - 1075) (UnpackedFloat.unpack Format.binary64
      (packComponents Format.binary64 s (BitVec.ofNat 11 b) m)) := by
  have exponent : (BitVec.ofNat 11 b).toNat = b := Nat.mod_eq_of_lt (by omega)
  have finite : BitVec.ofNat 11 b ≠ -1#11 := fun h => by
    have : b = 2 ^ 11 - 1 := exponent.symm.trans (congrArg BitVec.toNat h)
    omega
  have normal : BitVec.ofNat 11 b ≠ 0#11 := fun h => by
    have : b = 0 := exponent.symm.trans (congrArg BitVec.toNat h)
    omega
  have leading : (1#1 ++ m).toNat.log2 = 52 := by
    have size := m.isLt
    have value : (1#1 ++ m).toNat = 2 ^ 52 + m.toNat := by
      rw [BitVec.toNat_append, Nat.shiftLeft_eq, Nat.mul_comm, ← Nat.two_pow_add_eq_or_of_lt size]
      rfl
    exact (Nat.log2_eq_iff (by omega)).2 (by omega)
  have bias : (Format.binary64.exponentBias : Int) = 1023 := rfl
  have width : ((Format.binary64.mantissaBitsWithoutImplicit : Nat) : Int) = 52 := rfl
  simp only [UnpackedFloat.unpack, unpackExponent_packComponents, unpackMantissa_packComponents]
  rw [if_neg finite, if_neg normal]
  refine .intro _ _ _ _ leading ?_ ?_ <;> rw [exponent, bias] <;> omega

/-- **A number that is not too large keeps its leading bit when it is packed**, and its exponent.
The bound keeps the exponent below the special one of all ones. -/
theorem Finite.unpack_pack {greatest : Int} {x : UnpackedFloat} (h : Finite greatest x)
    (small : greatest ≤ 971) : Finite greatest
      (UnpackedFloat.unpack Format.binary64 (UnpackedFloat.pack Format.binary64 x)) := by
  cases h with
  | intro s m e pos leading least most =>
    have bias : (Format.binary64.exponentBias : Int) = 1023 := rfl
    have width : ((Format.binary64.mantissaBitsWithoutImplicit : Nat) : Int) = 52 := rfl
    have range : 2 ^ Format.binary64.exponentBits = 2048 := rfl
    rw [UnpackedFloat.pack]
    dsimp only
    rw [if_neg (by omega), leading, if_pos (show 52 + 1 = Format.binary64.mantissaBits from rfl)]
    exact (finite_unpack_packComponents s _ (by omega) (by omega)).mono (by omega)

/-- **A normal number stays normal when it is packed.** -/
theorem Normal.unpack_pack {x : UnpackedFloat} (h : Normal x) :
    Normal (UnpackedFloat.unpack Format.binary64 (UnpackedFloat.pack Format.binary64 x)) := by
  cases h with
  | infinity s => exact normal_unpack_packedInfinity s
  | finite s m e pos leading least =>
    by_cases small : e ≤ 971
    · exact (Finite.unpack_pack (.intro s m e pos leading least (Int.le_refl e)) small).normal
    · have bias : (Format.binary64.exponentBias : Int) = 1023 := rfl
      have width : ((Format.binary64.mantissaBitsWithoutImplicit : Nat) : Int) = 52 := rfl
      have range : 2 ^ Format.binary64.exponentBits = 2048 := rfl
      rw [UnpackedFloat.pack]
      dsimp only
      rw [if_pos (by omega)]
      exact normal_unpack_packedInfinity s

/-! ## Whole numbers

There are two ways to read a whole number: a small one as it is, and a large one as a decimal number
with exponent 0. -/

/-- A shift adds bits behind. -/
theorem log2_shiftLeft {n : Nat} (pos : n ≠ 0) (k : Nat) : (n <<< k).log2 = n.log2 + k := by
  obtain ⟨low, high⟩ := (Nat.log2_eq_iff pos).1 rfl
  have two := Nat.two_pow_pos k
  rw [Nat.shiftLeft_eq, Nat.log2_eq_iff (Nat.mul_ne_zero pos (Nat.ne_of_gt two)), Nat.pow_add,
    show n.log2 + k + 1 = n.log2 + 1 + k by omega, Nat.pow_add]
  exact ⟨Nat.mul_le_mul_right _ low, Nat.mul_lt_mul_of_pos_right high two⟩

/-- A positive number is rounded to one with a leading bit. -/
theorem finite_ofNat {n : Nat} (pos : n ≠ 0) :
    Finite ((n.log2 : Int) - 51) (UnpackedFloat.ofNat Format.binary64 n) := by
  have positive : compare (n : Int) 0 = .gt := by
    rw [Int.compare_eq_gt]
    omega
  rw [UnpackedFloat.ofNat, UnpackedFloat.ofInt, UnpackedFloat.normalize, positive]
  simp only [Int.toNat_natCast, UnpackedFloat.round, decreaseExponent, targetExponent_eq,
    totalExponent]
  have bits := log2_shiftLeft pos
  by_cases few : n.log2 ≤ 52
  · exact (finite_roundWithAccuracy (k := 0) _ (by rw [bits]; omega) (by omega)).mono (by omega)
  · exact (finite_roundWithAccuracy (k := n.log2 - 52) _ (by rw [bits]; omega)
      (by omega)).mono (by omega)

/-- The number one. -/
theorem unpack_one : (Float.ofBits 0x3FF0000000000000).toModel.unpack
    = .finite .positive (2 ^ 52) (-52) (Nat.two_pow_pos 52) := by
  rfl

/-- A number times one keeps its leading bit. -/
theorem Finite.mul_one {greatest : Int} {x : UnpackedFloat} (h : Finite greatest x) :
    Finite (greatest + 1) (UnpackedFloat.mul Format.binary64 x
      (.finite .positive (2 ^ 52) (-52) (Nat.two_pow_pos 52))) := by
  cases h with
  | intro s m e pos leading least most =>
    have bits : (m * 2 ^ 52).log2 = 52 + 52 := by
      rw [← Nat.shiftLeft_eq, log2_shiftLeft (Nat.ne_of_gt pos), leading]
    exact (finite_roundWithAccuracy _ bits (by omega)).mono (by omega)

/-- A large number is rounded after a multiplication by one. -/
theorem finite_ofScientific {n : Nat} (pos : n ≠ 0) :
    Finite ((n.log2 : Int) - 51) (UnpackedFloat.ofScientific Format.binary64 n 0) := by
  have range : (2 : Int) ^ Format.binary64.exponentBits = 2048 := rfl
  have width : Format.binary64.mantissaBits = 53 := rfl
  have bits : (n <<< Format.binary64.mantissaBits * 10 ^ (0 : Int).toNat).log2
      = 52 + (n.log2 + 1) := by
    rw [Int.toNat_zero, Nat.pow_zero, Nat.mul_one, log2_shiftLeft pos, width]
    omega
  rw [UnpackedFloat.ofScientific, dif_neg pos, range, if_neg (by omega), if_neg (by omega),
    if_pos (Int.le_refl 0), UnpackedFloat.mul]
  exact (finite_roundWithAccuracy _ bits (by omega)).mono (by omega)

/-- **A positive number is read as one with a leading bit**, which is then packed. There are two
ways to read it, depending on its size. -/
theorem exists_finite_ofNat {n : Nat} (pos : n ≠ 0) :
    ∃ x, Finite ((n.log2 : Int) - 50) x ∧ (Float.ofNat n).toModel.unpack
      = UnpackedFloat.unpack Format.binary64 (UnpackedFloat.pack Format.binary64 x) := by
  by_cases small : n < 2 ^ 53
  · -- a small number is converted bit by bit and multiplied by one
    have converted : Float.ofNat n = n.toUInt64.toFloat * Float.ofBits 0x3FF0000000000000 := by
      rw [Float.ofNat]
      show Float.ofScientific n false 0 = _
      rw [Float.ofScientific, dif_pos ⟨small, by decide⟩, if_neg Bool.false_ne_true]
      rfl
    have number : n.toUInt64.toNat = n := by
      show n % 2 ^ 64 = n
      exact Nat.mod_eq_of_lt (by omega)
    have bits : n.log2 < 53 := (Nat.log2_lt pos).2 small
    have packed : Finite ((n.log2 : Int) - 51) n.toUInt64.toFloat.toModel.unpack := by
      have finite := finite_ofNat (n := n.toUInt64.toNat) (number.symm ▸ pos)
      have greatest : ((n.toUInt64.toNat.log2 : Int) - 51) = n.log2 - 51 := by rw [number]
      have stored : Finite _ n.toUInt64.toFloat.toModel.unpack := finite.unpack_pack (by omega)
      exact stored.mono (Int.le_of_eq greatest)
    refine ⟨_, packed.mul_one.mono (by omega), ?_⟩
    rw [converted, ← unpack_one]
    rfl
  · have converted : Float.ofNat n = .ofModel (Float.Model.ofScientific n 0) := by
      rw [Float.ofNat]
      show Float.ofScientific n false 0 = _
      rw [Float.ofScientific, dif_neg fun h => small h.1]
      rfl
    rw [converted]
    exact ⟨_, (finite_ofScientific pos).mono (by omega), rfl⟩

/-- **A positive number is read as a normal number.** -/
theorem normal_unpack_ofNat {n : Nat} (pos : n ≠ 0) : Normal (Float.ofNat n).toModel.unpack := by
  obtain ⟨x, finite, same⟩ := exists_finite_ofNat pos
  rw [same]
  exact finite.normal.unpack_pack

/-- **A number of up to a thousand bits is not read as infinite.** -/
theorem finite_unpack_ofNat {n : Nat} (pos : n ≠ 0) (bits : n.log2 < 1000) :
    Finite 950 (Float.ofNat n).toModel.unpack := by
  obtain ⟨x, finite, same⟩ := exists_finite_ofNat pos
  rw [same]
  exact (finite.mono (by omega)).unpack_pack (by decide)

/-- **Only zero is read as zero.** So a quotient is undefined for the count that is zero and for no
other. -/
theorem ofInt_beq_zero_iff (n : Nat) : (Float.ofInt n == 0) = true ↔ n = 0 := by
  constructor
  · intro same
    refine Decidable.byContradiction fun pos => ?_
    have zero : (0 : Float).toModel.unpack = .zero .positive := rfl
    have equal : (Float.ofNat n).toModel.unpack.compare (0 : Float).toModel.unpack = some .eq :=
      beq_iff_eq.1 same
    rw [zero] at equal
    exact (normal_unpack_ofNat pos).compare_zero _ equal
  · rintro rfl
    rfl

end ActivityMetrics.Decimal
