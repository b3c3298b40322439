import ActivityMetrics.Proofs.Decimal.Whole
import Mathlib

/-!
# The order of floating-point numbers

Whatever is a number has a place among the others, which is given by a class, an exponent and a
mantissa, and numbers are compared by their places (`Decimal.compare_eq`). Places are compared
lexicographically as whole numbers, so order and equality of floating-point numbers come down to
those of whole numbers; that equality is symmetric and transitive, for one, is inherited and not
calculated.

What is no number has no place: it is not less than, equal to or greater than anything, itself
included. So a ranking by numbers is only an order if there is nothing else among them. The quotient
of two infinite numbers is no number, but that of two counts is, unless the second is too large to
be read as a finite number (`Decimal.isNumber_percentage`).
-/

namespace ActivityMetrics.Decimal

open Float.Model Float.Model.UnpackedFloat

/-! ## Places

A place is made so that no comparison has cases: a sign, a class and an exponent become whole
numbers, with the sign of a negative number turned into the order of its exponents and mantissas. -/

/-- The place of a number: its class, its exponent and its mantissa. A finite number has a leading
bit, so of two numbers of one sign the exponents decide, unless they are equal. What is no number
gets a place of its own, which no comparison looks at. -/
def place : UnpackedFloat → ℤ ×ₗ ℤ ×ₗ ℤ
  | .infinity .negative => toLex (-2, toLex (0, 0))
  | .finite .negative m e _ => toLex (-1, toLex (-e, -m))
  | .zero _ => toLex (0, toLex (0, 0))
  | .finite .positive m e _ => toLex (1, toLex (e, m))
  | .infinity .positive => toLex (2, toLex (0, 0))
  | .notANumber => toLex (3, toLex (0, 0))

/-- Pairs are compared by their first parts, and then by their second. -/
theorem compare_toLex {α β : Type} [Ord α] [Ord β] (a a' : α) (b b' : β) :
    compare (toLex (a, b)) (toLex (a', b')) = (compare a a').then (compare b b') :=
  rfl

theorem compare_natCast (m n : ℕ) : compare (m : ℤ) n = compare m n := by
  rcases lt_trichotomy m n with less | rfl | greater
  · rw [compare_lt_iff_lt.2 less, compare_lt_iff_lt.2 (Int.ofNat_lt.2 less)]
  · rw [compare_eq_iff_eq.2 rfl, compare_eq_iff_eq.2 rfl]
  · rw [compare_gt_iff_gt.2 greater, compare_gt_iff_gt.2 (Int.ofNat_lt.2 greater)]

/-- Negation turns the order around. -/
theorem compare_neg (a b : ℤ) : compare (-a) (-b) = (compare a b).swap := by
  rcases lt_trichotomy a b with less | rfl | greater
  · rw [compare_lt_iff_lt.2 less, compare_gt_iff_gt.2 (Int.neg_lt_neg less), Ordering.swap_lt]
  · rw [compare_eq_iff_eq.2 rfl, compare_eq_iff_eq.2 rfl, Ordering.swap_eq]
  · rw [compare_gt_iff_gt.2 greater, compare_lt_iff_lt.2 (Int.neg_lt_neg greater),
      Ordering.swap_gt]

/-- Numbers with a mantissa are compared by their places. -/
theorem compare_place_finite (s t : Sign) {m n : ℕ} (d e : ℤ) (hm : 0 < m) (hn : 0 < n) :
    (UnpackedFloat.finite s m d hm).compare (.finite t n e hn)
      = some (compare (place (.finite s m d hm)) (place (.finite t n e hn))) := by
  cases s <;> cases t
  · show some ((compare d e).then (compare m n)).swap = _
    rw [place, place, compare_toLex, compare_toLex, compare_neg d e, compare_neg m n,
      compare_natCast, Ordering.swap_then]
    rfl
  · rfl
  · rfl
  · show some ((compare d e).then (compare m n)) = _
    rw [place, place, compare_toLex, compare_toLex, compare_natCast]
    rfl

/-- **Numbers are compared by their places.** There is one case for each pair of kinds; only two
finite numbers take more than a look at their classes. -/
theorem compare_eq {x y : UnpackedFloat} (hx : x ≠ .notANumber) (hy : y ≠ .notANumber) :
    x.compare y = some (compare (place x) (place y)) := by
  cases x with
  | notANumber => exact absurd rfl hx
  | infinity s =>
    cases y with
    | notANumber => exact absurd rfl hy
    | infinity t | finite t => cases s <;> cases t <;> rfl
    | zero t => cases s <;> rfl
  | zero s =>
    cases y with
    | notANumber => exact absurd rfl hy
    | infinity t | finite t => cases t <;> rfl
    | zero t => rfl
  | finite s m e pos =>
    cases y with
    | notANumber => exact absurd rfl hy
    | infinity t => cases s <;> cases t <;> rfl
    | zero t => cases s <;> rfl
    | finite t m' e' pos' => exact compare_place_finite s t e e' pos pos'

/-! ## Numbers

The comparisons of floating-point numbers are those of their unpacked forms, and for numbers these
are comparisons of places. -/

/-- A floating-point number is a number. The other values result from a division of zero by zero,
and the like. -/
def IsNumber (x : Float) : Prop :=
  x.toModel.unpack ≠ .notANumber

variable {x y : Float}

/-- Numbers are ordered as their places. -/
theorem lt_iff_place_lt (hx : IsNumber x) (hy : IsNumber y) :
    x < y ↔ place x.toModel.unpack < place y.toModel.unpack := by
  have less : x < y ↔ (x.toModel.unpack.compare y.toModel.unpack == some .lt) = true :=
    decide_eq_true_iff
  rw [less, compare_eq hx hy, beq_iff_eq, Option.some_inj, compare_lt_iff_lt]

/-- Numbers are equal if their places are. -/
theorem beq_iff_place_eq (hx : IsNumber x) (hy : IsNumber y) :
    (x == y) = true ↔ place x.toModel.unpack = place y.toModel.unpack := by
  have equal : (x == y) = (x.toModel.unpack.compare y.toModel.unpack == some .eq) := rfl
  rw [equal, compare_eq hx hy, beq_iff_eq, Option.some_inj, compare_eq_iff_eq]

theorem isNumber_iff : IsNumber x ↔ x.isNaN = false := by
  unfold IsNumber
  show x.toModel.unpack ≠ .notANumber ↔ x.toModel.unpack.isNaN = false
  cases x.toModel.unpack with
  | notANumber => exact iff_of_false (fun h => h rfl) nofun
  | _ => exact iff_of_true nofun rfl

/-- **Equal are numbers of one place**, and nothing that is no number. The two zeros have one place,
so they are equal though they are not the same. -/
theorem beq_iff :
    x == y ↔ IsNumber x ∧ IsNumber y ∧ place x.toModel.unpack = place y.toModel.unpack := by
  have equal : (x == y) = (x.toModel.unpack.compare y.toModel.unpack == some .eq) := rfl
  constructor
  · intro h
    have hx : IsNumber x := by
      intro no_number
      rw [equal, no_number] at h
      cases h
    have hy : IsNumber y := by
      intro no_number
      rw [equal, no_number] at h
      revert h
      cases x.toModel.unpack <;> nofun
    exact ⟨hx, hy, (beq_iff_place_eq hx hy).1 h⟩
  · rintro ⟨hx, hy, same⟩
    exact (beq_iff_place_eq hx hy).2 same

instance instPartialEquivBEqFloat : PartialEquivBEq Float where
  symm h := by
    obtain ⟨hx, hy, same⟩ := beq_iff.1 h
    exact beq_iff.2 ⟨hy, hx, same.symm⟩
  trans h h' := by
    obtain ⟨hx, _, same⟩ := beq_iff.1 h
    obtain ⟨_, hz, same'⟩ := beq_iff.1 h'
    exact beq_iff.2 ⟨hx, hz, same.trans same'⟩

/-! ## Quotients of whole numbers

A percentage is a division and a multiplication, each rounded. What has to be excluded is that one
of them gives no number, and of all operations on numbers only two do: zero by zero, and infinite by
infinite. -/

theorem Normal.ne_notANumber {x : UnpackedFloat} (h : Normal x) : x ≠ .notANumber := by
  cases h <;> nofun

/-- Bits are read as a number unless their exponent is the special one of all ones. -/
theorem unpack_packComponents_ne_notANumber (s : Sign) {e : BitVec 11} (m : BitVec 52)
    (h : e ≠ -1#11) : UnpackedFloat.unpack Format.binary64 (packComponents Format.binary64 s e m)
      ≠ .notANumber := by
  simp only [UnpackedFloat.unpack, unpackExponent_packComponents, unpackMantissa_packComponents]
  rw [if_neg h]
  split
  · split <;> nofun
  · nofun

/-- A number is packed as a number. The exponent that stands for no number is kept free: a number
that would get it is too large, and becomes infinite. -/
theorem unpack_pack_ne_notANumber {x : UnpackedFloat} (h : x ≠ .notANumber) :
    UnpackedFloat.unpack Format.binary64 (UnpackedFloat.pack Format.binary64 x)
      ≠ .notANumber := by
  cases x with
  | notANumber => exact absurd rfl h
  | infinity s => exact (normal_unpack_packedInfinity s).ne_notANumber
  | zero s =>
    rw [UnpackedFloat.pack, unpack_packedZero]
    nofun
  | finite s m e pos =>
    have range : 2 ^ Format.binary64.exponentBits = 2048 := rfl
    rw [UnpackedFloat.pack]
    dsimp only
    split
    · exact (normal_unpack_packedInfinity s).ne_notANumber
    · rename_i small
      rw [range] at small
      split
      · -- the exponent is small enough, so that it is not the one of all ones
        refine unpack_packComponents_ne_notANumber s _ fun top => ?_
        have exponent := congrArg BitVec.toNat top
        rw [BitVec.toNat_ofNat, range, Nat.mod_eq_of_lt (by omega)] at exponent
        have : (-1#11).toNat = 2047 := rfl
        omega
      · exact unpack_packComponents_ne_notANumber s _ (by decide)

/-- Rounding gives a number. -/
theorem roundWithAccuracy_ne_notANumber (s : Sign) (m : ℕ) (e : ℤ) (a : Accuracy) :
    roundWithAccuracy Format.binary64 s m e a ≠ .notANumber := by
  intro none
  simp only [roundWithAccuracy] at none
  split at none <;> cases none

/-- A number divided by a finite one that is not zero is a number. Zero by zero and infinite by
infinite are the quotients to keep away from. -/
theorem div_ne_notANumber {x y : UnpackedFloat} {greatest : ℤ} (hx : x ≠ .notANumber)
    (hy : Finite greatest y) : UnpackedFloat.div Format.binary64 x y ≠ .notANumber := by
  cases hy with
  | intro =>
    cases x with
    | notANumber => exact absurd rfl hx
    | infinity | zero => nofun
    | finite => exact roundWithAccuracy_ne_notANumber _ _ _ _

/-- A number multiplied by a finite one that is not zero is a number. -/
theorem mul_ne_notANumber {x y : UnpackedFloat} {greatest : ℤ} (hx : x ≠ .notANumber)
    (hy : Finite greatest y) : UnpackedFloat.mul Format.binary64 x y ≠ .notANumber := by
  cases hy with
  | intro =>
    cases x with
    | notANumber => exact absurd rfl hx
    | infinity | zero => nofun
    | finite => exact roundWithAccuracy_ne_notANumber _ _ _ _

/-- A whole number is read as a number. -/
theorem isNumber_ofInt (n : ℕ) : IsNumber (Float.ofInt n) := by
  by_cases zero : n = 0
  · subst zero
    have unpacked : (Float.ofInt (0 : ℕ)).toModel.unpack = .zero .positive := rfl
    rw [IsNumber, unpacked]
    nofun
  · exact (normal_unpack_ofNat zero).ne_notANumber

theorem finite_hundred : Finite 0 (100 : Float).toModel.unpack :=
  .intro .positive (100 * 2 ^ 46) (-46) (by decide) (by decide) (by decide) (by decide)

/-- **The percentage of two counts is a number** if the second is not zero and has up to a thousand
bits. A count of more bits than that is read as infinite, and then the first one may be infinite,
too. -/
theorem isNumber_percentage (c : ℕ) {o : ℕ} (pos : o ≠ 0) (bits : o.log2 < 1000) :
    IsNumber (Float.ofInt c / Float.ofInt o * 100) :=
  unpack_pack_ne_notANumber (mul_ne_notANumber (unpack_pack_ne_notANumber
    (div_ne_notANumber (isNumber_ofInt c) (finite_unpack_ofNat pos bits))) finite_hundred)

end ActivityMetrics.Decimal
