import Projector.Proofs.Arithmetic

/-!
# Whole numbers in single precision

A mantissa has twenty-four bits, so the whole numbers of fewer bits are among the
coordinates, and on them nothing is rounded. Such a number has one representation:
its bits are moved up until there are twenty-four of them, and the exponent says how
far. A sum or a difference is worked out with more bits than that, but the bits that
are cut off are zeros, if it is again a whole number of so few bits.

So as long as the results are small enough, coordinates that stand for whole numbers
are added, subtracted and compared as the numbers are.
-/

namespace Projector

open Float.Model (Format UnpackedFloat totalExponent)
open Float.Model.UnpackedFloat (ExtendedMantissa Sign decreaseExponent shiftToTargetExponent)

/-! ## Values -/

namespace Value

/-- **A whole number other than zero**, by its sign and its bits. -/
def ofBits (s : Sign) (c : Nat) (pos : 0 < c) : UnpackedFloat :=
  .finite s (c * 2 ^ (23 - c.log2)) (-((23 - c.log2 : Nat) : Int))
    (Nat.mul_pos pos (Nat.two_pow_pos _))

/-- **A value stands for a whole number** of fewer than twenty-five bits. -/
inductive Whole : UnpackedFloat → Int → Prop
  /-- A zero of either sign. -/
  | zero (s : Sign) : Whole (.zero s) 0
  /-- A number with these bits. -/
  | bits (s : Sign) {c : Nat} (pos : 0 < c) (small : c < 2 ^ 24) :
    Whole (ofBits s c pos) (s.apply c)

/-! ### Rounding -/

/-- Zeros that are shifted out leave no trace. -/
theorem shiftRight_exact (c k : Nat) :
    (⟨c * 2 ^ k, false, false⟩ : ExtendedMantissa) >>> k = ⟨c, false, false⟩ := by
  induction k generalizing c with
  | zero => rw [Nat.pow_zero, Nat.mul_one]; rfl
  | succ k ih =>
    show ((⟨c * 2 ^ (k + 1), false, false⟩ : ExtendedMantissa) >>> k).shiftRightOne = _
    rw [Nat.pow_succ, Nat.mul_comm (2 ^ k), ← Nat.mul_assoc, ih]
    simp [ExtendedMantissa.shiftRightOne]

/-- Bits that are moved up count as many more. -/
theorem log2_mul_two_pow {c : Nat} (pos : 0 < c) (k : Nat) : (c * 2 ^ k).log2 = c.log2 + k := by
  induction k with
  | zero => rw [Nat.pow_zero, Nat.mul_one, Nat.add_zero]
  | succ k ih =>
    have twice : c * 2 ^ (k + 1) = 2 * (c * 2 ^ k) := by
      rw [Nat.pow_succ, Nat.mul_comm (2 ^ k), ← Nat.mul_assoc, Nat.mul_comm c, Nat.mul_assoc]
    rw [twice, Nat.log2_two_mul (Nat.ne_of_gt (Nat.mul_pos pos (Nat.two_pow_pos k))), ih,
      Nat.add_assoc]

theorem log2_le {c : Nat} (pos : 0 < c) (small : c < 2 ^ 24) : c.log2 ≤ 23 :=
  Nat.le_of_lt_succ ((Nat.log2_lt (Nat.ne_of_gt pos)).2 small)

/-- **Where the bits of a whole number go**, wherever they are. -/
theorem targetExponent_eq {c : Nat} (pos : 0 < c) (small : c < 2 ^ 24) (k : Nat) :
    Format.binary32.targetExponent (totalExponent (c * 2 ^ k) (-(k : Int))) =
      -((23 - c.log2 : Nat) : Int) := by
  have few := log2_le pos small
  unfold Format.targetExponent totalExponent
  rw [log2_mul_two_pow pos]
  show max _ (-149) = _
  show max (((c.log2 + k : Nat) : Int) + 1 + -(k : Int) - (24 : Nat)) (-149) = _
  omega

/-- Bits that are already where they go stay there. -/
theorem shiftToTargetExponent_eq {c : Nat} (pos : 0 < c) (small : c < 2 ^ 24) {k : Nat}
    (far : 23 - c.log2 ≤ k) :
    shiftToTargetExponent .binary32 (c * 2 ^ k) (-(k : Int)) .exact =
      (⟨c * 2 ^ (23 - c.log2), false, false⟩, -((23 - c.log2 : Nat) : Int)) := by
  have apart : k = 23 - c.log2 + (k - (23 - c.log2)) := (Nat.add_sub_cancel' far).symm
  have count : (-((23 - c.log2 : Nat) : Int) - -(k : Int)).toNat = k - (23 - c.log2) := by omega
  have bits : c * 2 ^ k = c * 2 ^ (23 - c.log2) * 2 ^ (k - (23 - c.log2)) := by
    rw [Nat.mul_assoc, ← Nat.pow_add, ← apart]
  unfold shiftToTargetExponent
  dsimp only
  rw [targetExponent_eq pos small]
  unfold Float.Model.UnpackedFloat.shiftToExponent
  dsimp only
  rw [count]
  refine Prod.ext ?_ ?_
  · show (⟨c * 2 ^ k, false, false⟩ : ExtendedMantissa) >>> _ = _
    rw [bits, shiftRight_exact]
  · show -(k : Int) + ((k - (23 - c.log2) : Nat) : Int) = _
    omega

/-- **A whole number is not rounded.** -/
theorem round_eq (s : Sign) {c : Nat} (pos : 0 < c) (small : c < 2 ^ 24) (k : Nat) :
    UnpackedFloat.round .binary32 s (c * 2 ^ k) (-(k : Int)) = ofBits s c pos := by
  have moved : decreaseExponent (c * 2 ^ k) (-(k : Int)) (-((23 - c.log2 : Nat) : Int)) =
      (c * 2 ^ max k (23 - c.log2), -((max k (23 - c.log2) : Nat) : Int)) := by
    have count : (-(k : Int) - -((23 - c.log2 : Nat) : Int)).toNat = 23 - c.log2 - k := by omega
    unfold decreaseExponent
    dsimp only
    rw [count, Nat.shiftLeft_eq, Nat.mul_assoc, ← Nat.pow_add]
    have sum : k + (23 - c.log2 - k) = max k (23 - c.log2) := by omega
    rw [sum]
    refine Prod.ext rfl ?_
    show -(k : Int) - ((23 - c.log2 - k : Nat) : Int) = _
    omega
  unfold UnpackedFloat.round
  dsimp only
  rw [targetExponent_eq pos small, moved]
  unfold Float.Model.UnpackedFloat.roundWithAccuracy
  dsimp only
  rw [shiftToTargetExponent_eq pos small (Nat.le_max_right _ _)]
  dsimp only
  -- the bits are all there already, and are not moved again
  have last : shiftToTargetExponent .binary32
      (⟨c * 2 ^ (23 - c.log2), false, false⟩ : ExtendedMantissa).roundedMantissa
      (-((23 - c.log2 : Nat) : Int)) .exact = _ :=
    shiftToTargetExponent_eq pos small (Nat.le_refl _)
  generalize shiftToTargetExponent .binary32 (ExtendedMantissa.roundedMantissa _) _ _ = shifted
    at last ⊢
  subst last
  exact dif_neg (Nat.ne_of_gt (Nat.mul_pos pos (Nat.two_pow_pos _)))

/-- **A whole number is itself**, whatever power of two it is counted in. -/
theorem whole_normalize {n : Int} (small : n.natAbs < 2 ^ 24) (k : Nat) (s : Sign) :
    Whole (.normalize .binary32 (n * (2 ^ k : Nat)) (-(k : Int)) s) n := by
  have unit : 0 < 2 ^ k := Nat.two_pow_pos k
  obtain ⟨c, sign⟩ := Int.eq_nat_or_neg n
  obtain rfl | pos := Nat.eq_zero_or_pos c
  · have none : n = 0 := by omega
    rw [none, Int.zero_mul]
    exact .zero s
  have more : 0 < c * 2 ^ k := Nat.mul_pos pos unit
  unfold UnpackedFloat.normalize
  obtain rfl | rfl := sign
  · have order : compare ((c : Int) * (2 ^ k : Nat)) 0 = .gt :=
      Int.compare_eq_gt.2 (by exact_mod_cast more)
    have count : ((c : Int) * (2 ^ k : Nat)).toNat = c * 2 ^ k := by
      rw [← Int.natCast_mul, Int.toNat_natCast]
    have small : c < 2 ^ 24 := by simpa using small
    simp only [order, count, round_eq .positive pos small]
    exact .bits .positive pos small
  · have order : compare (-(c : Int) * (2 ^ k : Nat)) 0 = .lt := by
      rw [Int.neg_mul]
      exact Int.compare_eq_lt.2 (Int.neg_neg_of_pos (by exact_mod_cast more))
    have count : (-(-(c : Int) * (2 ^ k : Nat))).toNat = c * 2 ^ k := by
      rw [Int.neg_mul, Int.neg_neg, ← Int.natCast_mul, Int.toNat_natCast]
    have small : c < 2 ^ 24 := by simpa using small
    simp only [order, count, round_eq .negative pos small]
    exact .bits .negative pos small

/-! ### Sums and differences -/

namespace Whole

variable {a b : UnpackedFloat} {n m : Int}

theorem eq_zero_or (h : Whole a n) : (∃ s, a = .zero s ∧ n = 0) ∨
    ∃ s c, ∃ pos : 0 < c, c < 2 ^ 24 ∧ a = ofBits s c pos ∧ n = s.apply c := by
  cases h with
  | zero s => exact .inl ⟨s, rfl, rfl⟩
  | bits s pos small => exact .inr ⟨s, _, pos, small, rfl, rfl⟩

/-- A number is counted in a smaller unit. -/
theorem apply_decreaseExponent (s : Sign) (c : Nat) {k j : Nat} (far : k ≤ j) :
    s.apply (decreaseExponent (c * 2 ^ k) (-(k : Int)) (-(j : Int))).1 =
      s.apply c * (2 ^ j : Nat) := by
  have count : (-(k : Int) - -(j : Int)).toNat = j - k := by omega
  unfold decreaseExponent
  dsimp only
  rw [count, Nat.shiftLeft_eq, Nat.mul_assoc, ← Nat.pow_add, Nat.add_sub_cancel' far,
    Int.natCast_mul]
  cases s with
  | positive => rfl
  | negative => exact (Int.neg_mul _ _).symm

/-- The smaller one of two units. -/
theorem min_unit (k j : Nat) : min (-(k : Int)) (-(j : Int)) = -((max k j : Nat) : Int) := by omega

/-- **Whole numbers are added.** -/
theorem add (ha : Whole a n) (hb : Whole b m) (small : (n + m).natAbs < 2 ^ 24) :
    Whole (.add .binary32 a b) (n + m) := by
  obtain ⟨s, rfl, rfl⟩ | ⟨s, c, pos, -, rfl, rfl⟩ := ha.eq_zero_or
  · obtain ⟨t, rfl, rfl⟩ | ⟨t, d, pos', small', rfl, rfl⟩ := hb.eq_zero_or
    · cases s <;> cases t <;> exact .zero _
    · rw [Int.zero_add]
      exact .bits t pos' small'
  · obtain ⟨t, rfl, rfl⟩ | ⟨t, d, pos', -, rfl, rfl⟩ := hb.eq_zero_or
    · rw [Int.add_zero]
      exact ha
    · have sum := whole_normalize small (max (23 - c.log2) (23 - d.log2)) .positive
      rw [Int.add_mul, ← apply_decreaseExponent s c (Nat.le_max_left _ _),
        ← apply_decreaseExponent t d (Nat.le_max_right _ _), ← min_unit] at sum
      exact sum

/-- **Whole numbers are subtracted.** -/
theorem sub (ha : Whole a n) (hb : Whole b m) (small : (n - m).natAbs < 2 ^ 24) :
    Whole (.sub .binary32 a b) (n - m) := by
  obtain ⟨s, rfl, rfl⟩ | ⟨s, c, pos, -, rfl, rfl⟩ := ha.eq_zero_or
  · obtain ⟨t, rfl, rfl⟩ | ⟨t, d, pos', small', rfl, rfl⟩ := hb.eq_zero_or
    · cases s <;> cases t <;> exact .zero _
    · rw [Int.zero_sub]
      cases t with
      | positive => exact .bits .negative pos' small'
      | negative =>
        rw [show -Sign.negative.apply (d : Int) = d from Int.neg_neg _]
        exact .bits .positive pos' small'
  · obtain ⟨t, rfl, rfl⟩ | ⟨t, d, pos', -, rfl, rfl⟩ := hb.eq_zero_or
    · rw [Int.sub_zero]
      exact ha
    · have difference := whole_normalize small (max (23 - c.log2) (23 - d.log2)) .positive
      rw [Int.sub_mul, ← apply_decreaseExponent s c (Nat.le_max_left _ _),
        ← apply_decreaseExponent t d (Nat.le_max_right _ _), ← min_unit] at difference
      exact difference

/-! ### As numbers of the format -/

/-- **A whole number stands for itself.** -/
theorem exact_eq (h : Whole a n) : exact a = n := by
  obtain ⟨s, rfl, rfl⟩ | ⟨s, c, pos, small, rfl, rfl⟩ := h.eq_zero_or
  · rfl
  · have unit : (2 : Rat) ^ (23 - c.log2) ≠ 0 := pow_ne_zero _ two_ne_zero
    have apply (s : Sign) (x : Nat) : s.apply ((x * 2 ^ (23 - c.log2) : Nat) : Int) =
        s.apply x * (2 ^ (23 - c.log2) : Nat) := by
      cases s with
      | positive => exact Int.natCast_mul _ _
      | negative => exact (congrArg Neg.neg (Int.natCast_mul _ _)).trans (Int.neg_mul _ _).symm
    show ((s.apply ((c * 2 ^ (23 - c.log2) : Nat) : Int) : Int) : Rat) * 2 ^ _ = _
    rw [apply, zpow_neg, zpow_natCast, Int.cast_mul, Int.cast_natCast, Nat.cast_pow, Nat.cast_ofNat,
      mul_assoc, mul_inv_cancel₀ unit, mul_one]

/-- The mantissa of a whole number has twenty-four bits. -/
theorem mantissa_bounds {c : Nat} (pos : 0 < c) (small : c < 2 ^ 24) :
    2 ^ 23 ≤ c * 2 ^ (23 - c.log2) ∧ c * 2 ^ (23 - c.log2) < 2 ^ 24 := by
  have few := log2_le pos small
  have log : (c * 2 ^ (23 - c.log2)).log2 = 23 := by
    rw [log2_mul_two_pow pos, Nat.add_sub_cancel' few]
  have pos := Nat.mul_pos pos (Nat.two_pow_pos (23 - c.log2))
  exact ⟨(Nat.le_log2 (Nat.ne_of_gt pos)).1 log.ge,
    (Nat.log2_lt (Nat.ne_of_gt pos)).1 (log.trans_lt (Nat.lt_succ_self 23))⟩

/-- **A whole number is in the form that the format prescribes.** -/
theorem canonical (h : Whole a n) : Canonical .binary32 a := by
  obtain ⟨s, rfl, -⟩ | ⟨s, c, pos, small, rfl, -⟩ := h.eq_zero_or
  · trivial
  · obtain ⟨long, short⟩ := mantissa_bounds pos small
    refine ⟨short, ?_, .inl long⟩
    show -149 ≤ -((23 - c.log2 : Nat) : Int)
    omega

/-- **Whole numbers are compared.** -/
theorem compare_eq (ha : Whole a n) (hb : Whole b m) : a.compare b = some (compare n m) := by
  rw [compare_exact ha.canonical hb.canonical, ha.exact_eq, hb.exact_eq,
    Int.cast_strictMono.cmp_map_eq, cmp_eq_compare]

theorem natAbs_lt (h : Whole a n) : n.natAbs < 2 ^ 24 := by
  obtain ⟨s, rfl, rfl⟩ | ⟨s, c, pos, small, rfl, rfl⟩ := h.eq_zero_or
  · decide
  · cases s with
    | positive => exact small
    | negative => exact (Int.natAbs_neg _).trans_lt small

/-- **A whole number is packed without loss.** -/
theorem unpack_pack (h : Whole a n) : (Float32.Model.pack a).unpack = a := by
  refine Value.unpack_pack_of_lt (by decide) h.canonical ?_
  have few : n.natAbs < 2 ^ 24 := h.natAbs_lt
  have bound : (2 : Rat) ^ 24 ≤ 2 ^ ((Format.binary32.exponentBias : Int) + 1) := by
    rw [← zpow_natCast]
    exact two_zpow_le (by decide)
  rw [h.exact_eq, ← Int.cast_abs, Int.abs_eq_natAbs, Int.cast_natCast]
  exact lt_of_lt_of_le (by exact_mod_cast few) bound

/-- **A value that stands for a whole number is in the form of one.** -/
theorem of_exact {b : BitVec Format.binary32.numBits}
    (finite : (UnpackedFloat.unpack .binary32 b).isFinite = true)
    (h : exact (.unpack .binary32 b) = n) (small : n.natAbs < 2 ^ 24) :
    Whole (.unpack .binary32 b) n := by
  have form := canonical_unpack finite
  cases hb : UnpackedFloat.unpack .binary32 b with
  | infinity | notANumber =>
    rw [hb] at finite
    cases finite
  | zero s =>
    rw [hb] at h
    have none : n = 0 := Int.cast_eq_zero.1 (show (n : Rat) = 0 from h.symm)
    rw [none]
    exact .zero s
  | finite s m e pos =>
    rw [hb] at h
    have value : ((s.apply m : Int) : Rat) * 2 ^ e = n := h
    have above : (0 : Rat) < m * 2 ^ e :=
      mul_pos (Nat.cast_pos.2 pos) (zpow_pos (by decide) e)
    -- the number without its sign
    obtain ⟨c, rfl, counted⟩ : ∃ c : Nat, n = s.apply c ∧ (m : Rat) * 2 ^ e = c := by
      cases s with
      | positive =>
        have value : (m : Rat) * 2 ^ e = n := value
        have pos : 0 < n := Int.cast_pos.1 (value ▸ above)
        refine ⟨n.natAbs, (Int.natAbs_of_nonneg pos.le).symm, value.trans ?_⟩
        rw [← Int.cast_natCast, Int.natAbs_of_nonneg pos.le]
      | negative =>
        have value : -((m : Rat) * 2 ^ e) = n := by
          rw [← value, ← neg_mul, ← Int.cast_natCast m, ← Int.cast_neg]
          rfl
        have neg : n < 0 := Int.cast_lt_zero.1 (value ▸ neg_neg_of_pos above)
        have abs : (n.natAbs : Int) = -n := Int.ofNat_natAbs_of_nonpos neg.le
        have size : ((n.natAbs : Nat) : Rat) = -n := by
          rw [← Int.cast_natCast, abs, Int.cast_neg]
        refine ⟨n.natAbs, ?_, ?_⟩
        · show n = -(n.natAbs : Int)
          rw [abs, neg_neg]
        · rw [size, ← value, neg_neg]
    have few : c < 2 ^ 24 := by
      cases s with
      | positive => exact small
      | negative =>
        have small : (-(c : Int)).natAbs < 2 ^ 24 := small
        rwa [Int.natAbs_neg, Int.natAbs_natCast] at small
    have pos' : 0 < c := Nat.cast_pos.1 (counted ▸ above)
    rw [hb] at form
    obtain ⟨short, -, long⟩ : Fits .binary32 m e := form
    have short : m < 2 ^ 24 := short
    have long : 2 ^ 23 ≤ m ∨ e = -149 := long
    -- a unit of two or more would be too large for a mantissa that has all its bits
    obtain ⟨k, rfl⟩ : ∃ k : Nat, e = -(k : Int) := by
      obtain ⟨k, rfl | rfl⟩ := Int.eq_nat_or_neg e
      · rw [zpow_natCast] at counted
        have bits : m * 2 ^ k = c := by exact_mod_cast counted
        cases k with
        | zero => exact ⟨0, rfl⟩
        | succ k =>
          have long : 2 ^ 23 ≤ m := long.resolve_right (by omega)
          have more : m * 2 ≤ m * 2 ^ (k + 1) :=
            Nat.mul_le_mul_left m (Nat.le_self_pow (Nat.succ_ne_zero k) 2)
          omega
      · exact ⟨k, rfl⟩
    rw [zpow_neg, zpow_natCast, mul_inv_eq_iff_eq_mul₀ (pow_ne_zero _ two_ne_zero)] at counted
    have bits : m = c * 2 ^ k := by exact_mod_cast counted
    obtain long | least := long
    · have log : m.log2 = 23 :=
        Nat.le_antisymm (log2_le pos short) ((Nat.le_log2 (Nat.ne_of_gt pos)).2 long)
      rw [bits, log2_mul_two_pow pos'] at log
      obtain rfl : k = 23 - c.log2 := by omega
      have same : UnpackedFloat.finite s m (-((23 - c.log2 : Nat) : Int)) pos = ofBits s c pos' :=
        (UnpackedFloat.finite.injEq ..).mpr ⟨rfl, bits, rfl⟩
      rw [same]
      exact .bits s pos' few
    · -- a number with the least exponent is a fraction
      have far : 2 ^ 24 ≤ 2 ^ k := Nat.pow_le_pow_right (by decide) (by omega)
      have large : 1 * 2 ^ k ≤ c * 2 ^ k := Nat.mul_le_mul_right _ pos'
      omega

end Whole

end Value

/-! ## Coordinates -/

namespace Float32

/-- **A coordinate stands for a whole number** of fewer than twenty-five bits. -/
def StandsFor (x : Float32) (q : Rat) : Prop :=
  ∃ n : Int, q = n ∧ Value.Whole x.toModel.unpack n

theorem standsFor_zero : StandsFor 0 0 :=
  ⟨0, Int.cast_zero.symm, show Value.Whole (0 : Float32).toModel.unpack 0 from .zero .positive⟩

namespace StandsFor

variable {x y : Float32} {p q : Rat}

theorem exact_eq (h : StandsFor x q) : exact x = q := by
  obtain ⟨n, rfl, whole⟩ := h
  exact whole.exact_eq

/-- A whole number below this bound has fewer than twenty-five bits. -/
theorem natAbs_lt {n : Int} (small : |(n : Rat)| < 2 ^ 24) : n.natAbs < 2 ^ 24 := by
  rw [← Int.cast_abs, Int.abs_eq_natAbs, Int.cast_natCast] at small
  exact_mod_cast small

/-- A coordinate that is a whole number stands for it. -/
theorem of_exact {n : Int} (finite : x.isFinite = true) (h : exact x = n)
    (small : |exact x| < 2 ^ 24) : StandsFor x (exact x) :=
  ⟨n, h, .of_exact finite h (natAbs_lt (h ▸ small))⟩

/-- **Coordinates are added as the numbers are.** -/
theorem add (hx : StandsFor x p) (hy : StandsFor y q) (small : |p + q| < 2 ^ 24) :
    StandsFor (x + y) (p + q) := by
  obtain ⟨n, rfl, hx⟩ := hx
  obtain ⟨m, rfl, hy⟩ := hy
  refine ⟨n + m, (Int.cast_add n m).symm, ?_⟩
  rw [← Int.cast_add] at small
  have sum := hx.add hy (natAbs_lt small)
  exact Eq.mp (congrArg (Value.Whole · (n + m)) sum.unpack_pack.symm) sum

/-- **Coordinates are subtracted as the numbers are.** -/
theorem sub (hx : StandsFor x p) (hy : StandsFor y q) (small : |p - q| < 2 ^ 24) :
    StandsFor (x - y) (p - q) := by
  obtain ⟨n, rfl, hx⟩ := hx
  obtain ⟨m, rfl, hy⟩ := hy
  refine ⟨n - m, (Int.cast_sub n m).symm, ?_⟩
  rw [← Int.cast_sub] at small
  have difference := hx.sub hy (natAbs_lt small)
  exact Eq.mp (congrArg (Value.Whole · (n - m)) difference.unpack_pack.symm) difference

/-- **Coordinates are compared as the numbers are.** -/
theorem lt_iff (hx : StandsFor x p) (hy : StandsFor y q) : x < y ↔ p < q := by
  obtain ⟨n, rfl, hx⟩ := hx
  obtain ⟨m, rfl, hy⟩ := hy
  rw [lt_iff_compare, hx.compare_eq hy, Option.some_inj, Int.compare_eq_lt, Int.cast_lt]

theorem le_iff (hx : StandsFor x p) (hy : StandsFor y q) : x ≤ y ↔ p ≤ q := by
  obtain ⟨n, rfl, hx⟩ := hx
  obtain ⟨m, rfl, hy⟩ := hy
  have compared : x ≤ y ↔ (x.toModel.unpack.compare y.toModel.unpack).any Ordering.isLE = true := by
    show decide (x.toModel ≤ y.toModel) = true ↔ _
    exact decide_eq_true_iff
  rw [compared, hx.compare_eq hy, Option.any_some, Int.isLE_compare, Int.cast_le]

theorem isNaN_eq_false (h : StandsFor x q) : x.isNaN = false := by
  obtain ⟨n, rfl, whole⟩ := h
  show x.toModel.unpack.isNaN = false
  obtain ⟨s, zero, -⟩ | ⟨s, c, pos, -, bits, -⟩ := whole.eq_zero_or
  · rw [zero]
    rfl
  · rw [bits]
    rfl

theorem larger (hx : StandsFor x p) (hy : StandsFor y q) :
    StandsFor (Scalar.larger x y) (Scalar.larger p q) := by
  have number : Scalar.larger x y = if x < y then y else x :=
    if_neg (Bool.eq_false_iff.1 hx.isNaN_eq_false)
  have rational : Scalar.larger p q = if p < q then q else p := rfl
  rw [number, rational, if_congr (hx.lt_iff hy) rfl rfl]
  split
  · exact hy
  · exact hx

theorem smaller (hx : StandsFor x p) (hy : StandsFor y q) :
    StandsFor (Scalar.smaller x y) (Scalar.smaller p q) := by
  have number : Scalar.smaller x y = if y < x then y else x :=
    if_neg (Bool.eq_false_iff.1 hx.isNaN_eq_false)
  have rational : Scalar.smaller p q = if q < p then q else p := rfl
  rw [number, rational, if_congr (hy.lt_iff hx) rfl rfl]
  split
  · exact hy
  · exact hx

end StandsFor

end Float32

end Projector
