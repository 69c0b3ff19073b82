import Projector.Proofs.Nearest

/-!
# Arithmetic in a format

A finite value that was unpacked is in the form that its format prescribes, and in
this form values are ordered as the numbers that they stand for. Differences, products
and quotients are the numbers nearest to the exact ones, and packing them loses nothing
unless they are too large for the format.

So far as results are finite, a comparison of what was worked out in single or in
double precision is one of nearest numbers. That is what the two last sections say,
for the operations that the layout is decided with.
-/

namespace Projector

open Float.Model (Format UnpackedFloat totalExponent)
open Float.Model.UnpackedFloat (Sign accuracyOfFraction decreaseExponent packComponents
  unpackExponent unpackMantissa unpackSign)

namespace Value

variable {format : Format} {a b : UnpackedFloat}

/-! ## The order -/

/-- A number with a larger exponent is larger. -/
theorem Fits.lt_of_exponent_lt {m n : Nat} {e f : Int} (hm : Fits format m e) (hn : Fits format n f)
    (less : e < f) : (m : Rat) * 2 ^ e < n * 2 ^ f := by
  have least := hm.least
  have long : 2 ^ format.mantissaBitsWithoutImplicit ≤ n := hn.long.resolve_right (by omega)
  calc (m : Rat) * 2 ^ e
      < (2 ^ format.mantissaBits : Nat) * 2 ^ e :=
        mul_lt_mul_of_pos_right (Nat.cast_lt.2 hm.short) (two_zpow_pos e)
    _ ≤ (2 ^ format.mantissaBitsWithoutImplicit : Nat) * 2 ^ f := by
        rw [cast_two_pow, cast_two_pow, ← two_zpow_add, ← two_zpow_add]
        refine two_zpow_le ?_
        unfold Format.mantissaBits
        omega
    _ ≤ n * 2 ^ f := mul_le_mul_of_nonneg_right (Nat.cast_le.2 long) (two_zpow_pos f).le

/-- **Exponents are compared first, and mantissas if they are the same.** -/
theorem Fits.compare_eq {m n : Nat} {e f : Int} (hm : Fits format m e) (hn : Fits format n f) :
    (compare e f).then (compare m n) = cmp ((m : Rat) * 2 ^ e) (n * 2 ^ f) := by
  obtain less | rfl | more := lt_trichotomy e f
  · rw [Int.compare_eq_lt.2 less, (cmp_eq_lt_iff _ _).2 (hm.lt_of_exponent_lt hn less)]
    rfl
  · rw [Int.compare_eq_eq.2 rfl]
    show compare m n = _
    obtain less | rfl | more := lt_trichotomy m n
    · rw [Nat.compare_eq_lt.2 less,
        (cmp_eq_lt_iff _ _).2 (mul_lt_mul_of_pos_right (Nat.cast_lt.2 less) (two_zpow_pos e))]
    · rw [Nat.compare_eq_eq.2 rfl, cmp_self_eq_eq]
    · rw [Nat.compare_eq_gt.2 more,
        (cmp_eq_gt_iff _ _).2 (mul_lt_mul_of_pos_right (Nat.cast_lt.2 more) (two_zpow_pos e))]
  · rw [Int.compare_eq_gt.2 more, (cmp_eq_gt_iff _ _).2 (hn.lt_of_exponent_lt hm more)]
    rfl

/-- The order is turned round below zero. -/
theorem cmp_neg (x y : Rat) : cmp (-x) (-y) = cmp y x :=
  cmp_eq_cmp_symm.1 <| by
    obtain less | rfl | more := lt_trichotomy x y
    · rw [(cmp_eq_lt_iff _ _).2 less, (cmp_eq_lt_iff _ _).2 (neg_lt_neg less)]
    · rw [cmp_self_eq_eq, cmp_self_eq_eq]
    · rw [(cmp_eq_gt_iff _ _).2 more, (cmp_eq_gt_iff _ _).2 (neg_lt_neg more)]

/-- **Values are compared as the numbers that they stand for.** -/
theorem compare_exact (ha : Canonical format a) (hb : Canonical format b) :
    a.compare b = some (cmp (exact a) (exact b)) := by
  cases a with
  | infinity | notANumber => cases ha
  | zero s =>
    cases b with
    | infinity | notANumber => cases hb
    | zero t => rfl
    | finite t n f pos =>
      rw [exact_finite]
      cases t with
      | positive => exact congrArg some ((cmp_eq_lt_iff _ _).2 (number_pos pos f)).symm
      | negative =>
        refine congrArg some ((cmp_eq_gt_iff _ _).2 ?_).symm
        exact neg_neg_of_pos (number_pos pos f)
  | finite s m e pos =>
    rw [exact_finite]
    cases b with
    | infinity | notANumber => cases hb
    | zero t =>
      cases s with
      | positive => exact congrArg some ((cmp_eq_gt_iff _ _).2 (number_pos pos e)).symm
      | negative =>
        refine congrArg some ((cmp_eq_lt_iff _ _).2 ?_).symm
        exact neg_neg_of_pos (number_pos pos e)
    | finite t n f pos' =>
      rw [exact_finite]
      have magnitudes := Fits.compare_eq ha hb
      have above := number_pos pos e
      have above' := number_pos pos' f
      cases s with
      | positive =>
        cases t with
        | positive => exact congrArg some magnitudes
        | negative =>
          refine congrArg some ((cmp_eq_gt_iff _ _).2 ?_).symm
          exact (neg_neg_of_pos above').trans above
      | negative =>
        cases t with
        | positive =>
          refine congrArg some ((cmp_eq_lt_iff _ _).2 ?_).symm
          exact (neg_neg_of_pos above).trans above'
        | negative =>
          refine congrArg some ?_
          show ((compare e f).then (compare m n)).swap = cmp (-((m : Rat) * 2 ^ e)) (-(n * 2 ^ f))
          rw [magnitudes, cmp_swap, cmp_neg]

/-- **What the order of values says about the numbers.** -/
theorem lt_iff (ha : Canonical format a) (hb : Canonical format b) :
    a.lt b = true ↔ exact a < exact b := by
  unfold UnpackedFloat.lt
  rw [compare_exact ha hb, beq_iff_eq, Option.some_inj, cmp_eq_lt_iff]

theorem le_iff (ha : Canonical format a) (hb : Canonical format b) :
    a.le b = true ↔ exact a ≤ exact b := by
  unfold UnpackedFloat.le
  rw [compare_exact ha hb, Option.any_some, Ordering.isLE_iff_ne_gt, cmp_eq_gt_iff, not_lt]

theorem beq_iff (ha : Canonical format a) (hb : Canonical format b) :
    a.beq b = true ↔ exact a = exact b := by
  unfold UnpackedFloat.beq
  rw [compare_exact ha hb, beq_iff_eq, Option.some_inj, cmp_eq_eq_iff]

/-- A number of the format is its own nearest one. -/
theorem nearest_exact (ha : Canonical format a) : nearest format (exact a) = exact a := by
  cases a with
  | infinity | notANumber => cases ha
  | zero s => exact nearest_zero format
  | finite s m e pos =>
    rw [exact_finite, nearest_signed format s (number_pos pos e).le, Fits.magnitude_eq ha]

/-- The number without its sign. -/
theorem abs_exact (s : Sign) (m : Nat) (e : Int) (pos : 0 < m) :
    |exact (.finite s m e pos)| = m * 2 ^ e := by
  rw [exact_finite]
  cases s with
  | positive => exact abs_of_pos (number_pos pos e)
  | negative => exact (abs_neg _).trans (abs_of_pos (number_pos pos e))

/-- A power of two is a number of the format. -/
theorem nearest_two_zpow {k : Int} (least : format.minExponent ≤ k) :
    nearest format (2 ^ k) = 2 ^ k := by
  rw [nearest_of_nonneg (two_zpow_pos k).le]
  have twice := two_pow_mantissaBits format
  have some : 0 < 2 ^ format.mantissaBitsWithoutImplicit := Nat.two_pow_pos _
  obtain far | near := le_total (format.minExponent + format.mantissaBitsWithoutImplicit) k
  · have fits : Fits format (2 ^ format.mantissaBitsWithoutImplicit)
        (k - format.mantissaBitsWithoutImplicit) := ⟨by omega, by omega, .inl le_rfl⟩
    have same := fits.magnitude_eq
    rwa [cast_two_pow, ← two_zpow_add, add_sub_cancel] at same
  · obtain ⟨j, rfl⟩ := Int.le.dest least
    have fits : Fits format (2 ^ j) format.minExponent := by
      refine ⟨Nat.pow_lt_pow_right (by decide) ?_, le_rfl, .inr rfl⟩
      unfold Format.mantissaBits
      omega
    have same := fits.magnitude_eq
    rwa [cast_two_pow, ← two_zpow_add, add_comm] at same

theorem isFinite_of_canonical (ha : Canonical format a) : a.isFinite = true := by
  cases a with
  | infinity | notANumber => cases ha
  | zero | finite => rfl

/-! ## Packing -/

theorem minExponent_eq (format : Format) : format.minExponent =
    1 - (format.exponentBias + format.mantissaBitsWithoutImplicit) := by
  have some := Nat.one_le_two_pow (n := format.exponentBits - 1)
  have power : (2 : Int) ^ (format.exponentBits - 1) = (2 ^ (format.exponentBits - 1) : Nat) := by
    rw [Nat.cast_pow, Nat.cast_ofNat]
  unfold Format.minExponent Format.exponentBias Format.mantissaBits
  rw [power]
  omega

/-- **What was unpacked is in the form that the format prescribes.** -/
theorem canonical_unpack {b : BitVec format.numBits}
    (finite : (UnpackedFloat.unpack format b).isFinite = true) :
    Canonical format (.unpack format b) := by
  have least := minExponent_eq format
  have twice := two_pow_mantissaBits format
  unfold UnpackedFloat.unpack at finite ⊢
  dsimp only at finite ⊢
  by_cases ones : unpackExponent b = -1#_
  · rw [if_pos ones] at finite
    split at finite <;> cases finite
  rw [if_neg ones]
  by_cases small : unpackExponent b = 0#_
  · rw [if_pos small]
    by_cases none : unpackMantissa b = 0#_
    · rw [dif_pos none]
      trivial
    · have short := (unpackMantissa b).isLt
      rw [dif_neg none, small, BitVec.toNat_zero]
      exact ⟨by omega, by omega, .inr (by omega)⟩
  · have short := (unpackMantissa b).isLt
    have some : 0 < (unpackExponent b).toNat :=
      Nat.pos_of_ne_zero fun h => small (BitVec.eq_of_toNat_eq h)
    rw [if_neg small]
    refine ⟨?_, ?_, .inl ?_⟩
    · rw [toNat_leading]
      omega
    · omega
    · rw [toNat_leading]
      omega

theorem ofBitVec_toBitVec_sign (s : Sign) : Sign.ofBitVec s.toBitVec = s := by
  cases s <;> rfl

theorem unpackSign_packComponents {format : Format} {s : Sign} {exponent m} :
    unpackSign (packComponents format s exponent m) = s.toBitVec := by
  refine BitVec.eq_of_getLsbD_eq fun i (hi : i < 1) => ?_
  have none : i = 0 := by omega
  unfold unpackSign packComponents
  rw [none, BitVec.getLsbD_cast, BitVec.getLsbD_extractLsb, BitVec.getLsbD_append,
    BitVec.getLsbD_append]
  simp

/-- Not all bits of an exponent are ones if all are zeros. -/
theorem zero_ne_ones (wide : 1 < format.exponentBits) :
    (0#_ : BitVec format.exponentBits) ≠ -1#_ := by
  intro h
  have same := congrArg BitVec.toNat h
  have few : 2 ^ 1 ≤ 2 ^ format.exponentBits := Nat.pow_le_pow_right (by decide) wide.le
  rw [BitVec.neg_one_eq_allOnes, BitVec.toNat_allOnes, BitVec.toNat_zero] at same
  omega

theorem unpack_zero (wide : 1 < format.exponentBits) (s : Sign) :
    UnpackedFloat.unpack format (UnpackedFloat.pack format (.zero s)) = .zero s := by
  have packed : UnpackedFloat.pack format (.zero s) = packComponents format s 0#_ 0#_ := rfl
  rw [packed]
  unfold UnpackedFloat.unpack
  dsimp only
  rw [Float.Model.UnpackedFloat.unpackExponent_packComponents, if_neg (zero_ne_ones wide),
    if_pos rfl, dif_pos Float.Model.UnpackedFloat.unpackMantissa_packComponents,
    unpackSign_packComponents, ofBitVec_toBitVec_sign]

/-- A normal number is unpacked with its leading one. -/
theorem unpack_normal {s : Sign} {m : BitVec format.mantissaBitsWithoutImplicit}
    {exponent : BitVec format.exponentBits} (finite : exponent ≠ -1#_) (normal : exponent ≠ 0#_)
    (pos : 0 < (1#1 ++ m).toNat) :
    UnpackedFloat.unpack format (packComponents format s exponent m) = .finite s (1#1 ++ m).toNat
      (exponent.toNat - (format.exponentBias + format.mantissaBitsWithoutImplicit)) pos := by
  unfold UnpackedFloat.unpack
  dsimp only
  rw [Float.Model.UnpackedFloat.unpackExponent_packComponents, if_neg finite, if_neg normal,
    unpackSign_packComponents, ofBitVec_toBitVec_sign]
  refine (UnpackedFloat.finite.injEq ..).mpr ⟨rfl, ?_, rfl⟩
  rw [Float.Model.UnpackedFloat.unpackMantissa_packComponents]

/-- A number below the least normal one has the least exponent. -/
theorem unpack_subnormal {s : Sign} {m : BitVec format.mantissaBitsWithoutImplicit}
    (wide : 1 < format.exponentBits) (pos : 0 < m.toNat) :
    UnpackedFloat.unpack format (packComponents format s 0#_ m) =
      .finite s m.toNat format.minExponent pos := by
  have mantissa : unpackMantissa (packComponents format s 0#_ m) = m :=
    Float.Model.UnpackedFloat.unpackMantissa_packComponents
  have some : unpackMantissa (packComponents format s 0#_ m) ≠ 0#_ := by
    rw [mantissa]
    rintro rfl
    exact absurd pos (Nat.lt_irrefl 0)
  unfold UnpackedFloat.unpack
  dsimp only
  rw [Float.Model.UnpackedFloat.unpackExponent_packComponents, if_neg (zero_ne_ones wide),
    if_pos rfl, dif_neg some, unpackSign_packComponents, ofBitVec_toBitVec_sign]
  refine (UnpackedFloat.finite.injEq ..).mpr ⟨rfl, congrArg BitVec.toNat mantissa, ?_⟩
  rw [minExponent_eq, BitVec.toNat_zero]
  omega

/-- **A number is packed without loss** if its exponent is in range. -/
theorem unpack_pack_finite (wide : 1 < format.exponentBits) (s : Sign) {m : Nat} {e : Int}
    (fits : Fits format m e) (pos : 0 < m)
    (small : e + format.exponentBias + format.mantissaBitsWithoutImplicit + 1 <
      (2 ^ format.exponentBits : Nat)) :
    UnpackedFloat.unpack format (UnpackedFloat.pack format (.finite s m e pos)) =
      .finite s m e pos := by
  have least := fits.least
  have bias := minExponent_eq format
  have twice := two_pow_mantissaBits format
  have short := fits.short
  have ones : (-1#_ : BitVec format.exponentBits).toNat = 2 ^ format.exponentBits - 1 := by
    rw [BitVec.neg_one_eq_allOnes, BitVec.toNat_allOnes]
  by_cases long : 2 ^ format.mantissaBitsWithoutImplicit ≤ m
  · -- the leading one is not packed
    obtain ⟨n, rfl⟩ : ∃ n : BitVec format.mantissaBitsWithoutImplicit, m = (1#1 ++ n).toNat := by
      refine ⟨.ofNat _ (m - 2 ^ format.mantissaBitsWithoutImplicit), ?_⟩
      rw [toNat_leading, BitVec.toNat_ofNat, Nat.mod_eq_of_lt (by omega)]
      omega
    obtain ⟨exponent, biased⟩ : ∃ exponent : BitVec format.exponentBits,
        e + format.exponentBias + format.mantissaBitsWithoutImplicit = exponent.toNat := by
      refine ⟨.ofNat _ (e + format.exponentBias + format.mantissaBitsWithoutImplicit).toNat, ?_⟩
      rw [BitVec.toNat_ofNat, Nat.mod_eq_of_lt (by omega)]
      omega
    have finite : exponent ≠ -1#_ := by
      rintro rfl
      omega
    have normal : exponent ≠ 0#_ := by
      rintro rfl
      rw [BitVec.toNat_zero] at biased
      omega
    rw [pack_normal finite pos biased, unpack_normal finite normal pos, ← biased]
    refine (UnpackedFloat.finite.injEq ..).mpr ⟨rfl, rfl, ?_⟩
    omega
  · obtain rfl := fits.long.resolve_left long
    obtain ⟨n, rfl⟩ : ∃ n : BitVec format.mantissaBitsWithoutImplicit, m = n.toNat :=
      ⟨.ofNat _ m, by rw [BitVec.toNat_ofNat, Nat.mod_eq_of_lt (by omega)]⟩
    rw [pack_subnormal wide pos (by omega)]
    exact unpack_subnormal wide pos

/-- **A value is packed without loss** if something finite comes out. -/
theorem unpack_pack (wide : 1 < format.exponentBits) (ha : Canonical format a)
    (finite : (UnpackedFloat.unpack format (UnpackedFloat.pack format a)).isFinite = true) :
    UnpackedFloat.unpack format (UnpackedFloat.pack format a) = a := by
  cases a with
  | infinity | notANumber => cases ha
  | zero s => exact unpack_zero wide s
  | finite s m e pos =>
    by_cases small : e + format.exponentBias + format.mantissaBitsWithoutImplicit + 1 <
        (2 ^ format.exponentBits : Nat)
    · exact unpack_pack_finite wide s ha pos small
    · have large : UnpackedFloat.pack format (.finite s m e pos) =
          packComponents format s (-1#_) 0#_ := by
        unfold UnpackedFloat.pack
        dsimp only
        rw [if_pos (by omega)]
        rfl
      rw [large] at finite
      unfold UnpackedFloat.unpack at finite
      dsimp only at finite
      rw [Float.Model.UnpackedFloat.unpackExponent_packComponents, if_pos rfl,
        Float.Model.UnpackedFloat.unpackMantissa_packComponents, if_pos rfl] at finite
      cases finite

/-- **A value is packed without loss** if it is below the largest power of two. -/
theorem unpack_pack_of_lt (wide : 1 < format.exponentBits) (ha : Canonical format a)
    (small : |exact a| < 2 ^ ((format.exponentBias : Int) + 1)) :
    UnpackedFloat.unpack format (UnpackedFloat.pack format a) = a := by
  have few : 2 ^ 2 ≤ 2 ^ format.exponentBits := Nat.pow_le_pow_right (by decide) wide
  have twice : 2 ^ format.exponentBits = 2 * 2 ^ (format.exponentBits - 1) := by
    rw [← Nat.pow_succ', Nat.succ_eq_add_one, Nat.sub_add_cancel wide.le]
  have bias : format.exponentBias = 2 ^ (format.exponentBits - 1) - 1 := rfl
  have least := minExponent_eq format
  cases a with
  | infinity | notANumber => cases ha
  | zero s => exact unpack_zero wide s
  | finite s m e pos =>
    refine unpack_pack_finite wide s ha pos ?_
    obtain long | rfl := Fits.long ha
    · have below : (2 : Rat) ^ (format.mantissaBitsWithoutImplicit + e) <
          2 ^ ((format.exponentBias : Int) + 1) := by
        refine lt_of_le_of_lt ?_ small
        rw [abs_exact, two_zpow_add, zpow_natCast]
        exact mul_le_mul_of_nonneg_right (by exact_mod_cast long) (two_zpow_pos e).le
      have less := (zpow_lt_zpow_iff_right₀ one_lt_two).1 below
      omega
    · omega

/-! ## Operations -/

/-- A number is counted in a smaller unit. -/
theorem apply_decreaseExponent (s : Sign) {m : Nat} {e t : Int} (pos : 0 < m) (le : t ≤ e) :
    ((s.apply (decreaseExponent m e t).1 : Int) : Rat) * 2 ^ t = exact (.finite s m e pos) := by
  have unit : (decreaseExponent m e t).2 = t := by
    unfold decreaseExponent
    dsimp only
    omega
  have same := decreaseExponent_eq m e t
  rw [unit] at same
  rw [exact_finite, ← same]
  cases s with
  | positive => rfl
  | negative =>
    show ((-((decreaseExponent m e t).1 : Int) : Int) : Rat) * 2 ^ t = -(_ * 2 ^ t)
    rw [Int.cast_neg, Int.cast_natCast, neg_mul]

/-- **Differences are rounded to the nearest number.** -/
theorem exact_sub (ha : Canonical format a) (hb : Canonical format b) :
    Canonical format (.sub format a b) ∧
      exact (.sub format a b) = nearest format (exact a - exact b) := by
  cases a with
  | infinity | notANumber => cases ha
  | zero s =>
    cases b with
    | infinity | notANumber => cases hb
    | zero t =>
      have none : exact (.zero s) - exact (.zero t) = 0 := sub_self 0
      rw [none, nearest_zero]
      cases s <;> cases t <;> exact ⟨trivial, rfl⟩
    | finite t n f pos =>
      have number : exact (.zero s) - exact (.finite t n f pos) = -exact (.finite t n f pos) :=
        zero_sub _
      rw [number, nearest_neg, nearest_exact hb]
      refine ⟨hb, ?_⟩
      show exact (.finite (-t) n f pos) = _
      rw [exact_finite, exact_finite]
      cases t with
      | positive => rfl
      | negative => exact (neg_neg _).symm
  | finite s m e pos =>
    cases b with
    | infinity | notANumber => cases hb
    | zero t =>
      have number : exact (.finite s m e pos) - exact (.zero t) = exact (.finite s m e pos) :=
        sub_eq_self.2 rfl
      rw [number, nearest_exact ha]
      exact ⟨ha, rfl⟩
    | finite t n f pos' =>
      obtain ⟨canonical, value⟩ := exact_normalize format
        (s.apply (decreaseExponent m e (min e f)).1 - t.apply (decreaseExponent n f (min e f)).1)
        (min e f) .positive
      refine ⟨canonical, value.trans (congrArg (nearest format) ?_)⟩
      rw [Int.cast_sub, sub_mul, apply_decreaseExponent s pos (min_le_left e f),
        apply_decreaseExponent t pos' (min_le_right e f)]

/-- A product of signs. -/
theorem signed_mul (s t : Sign) (x y : Rat) : signed (s * t) (x * y) = signed s x * signed t y := by
  cases s with
  | positive =>
    cases t with
    | positive => rfl
    | negative => exact (mul_neg x y).symm
  | negative =>
    cases t with
    | positive => exact (neg_mul x y).symm
    | negative => exact (neg_mul_neg x y).symm

/-- **Bits that are all there are rounded to the nearest number.** -/
theorem exact_rounded (s : Sign) {m : Nat} {e : Int} (pos : 0 < m)
    (many : 2 ^ format.mantissaBitsWithoutImplicit ≤ m ∨ e ≤ format.minExponent) :
    Canonical format (.roundWithAccuracy format s m e .exact) ∧
      exact (.roundWithAccuracy format s m e .exact) = signed s (magnitude format (m * 2 ^ e)) := by
  refine exact_roundWithAccuracy s ?_ pos ?_
  · rw [number_div]
    exact marks_exact m
  · rw [unit_number pos]
    unfold Format.targetExponent totalExponent Format.mantissaBits
    obtain long | least := many
    · have bits := (Nat.le_log2 (Nat.ne_of_gt pos)).2 long
      omega
    · omega

theorem mul_finite (format : Format) (s t : Sign) {m n : Nat} (e f : Int) (pos : 0 < m)
    (pos' : 0 < n) : UnpackedFloat.mul format (.finite s m e pos) (.finite t n f pos') =
      .roundWithAccuracy format (s * t) (m * n) (e + f) .exact :=
  rfl

/-- **Products are rounded to the nearest number.** -/
theorem exact_mul (small : format.minExponent ≤ 0) (ha : Canonical format a)
    (hb : Canonical format b) : Canonical format (.mul format a b) ∧
      exact (.mul format a b) = nearest format (exact a * exact b) := by
  cases a with
  | infinity | notANumber => cases ha
  | zero s =>
    have none : exact (.zero s) * exact b = 0 := zero_mul _
    rw [none, nearest_zero]
    cases b with
    | infinity | notANumber => cases hb
    | zero t => exact ⟨trivial, rfl⟩
    | finite t n f pos => exact ⟨trivial, rfl⟩
  | finite s m e pos =>
    cases b with
    | infinity | notANumber => cases hb
    | zero t =>
      have none : exact (.finite s m e pos) * exact (.zero t) = 0 := mul_zero _
      rw [none, nearest_zero]
      exact ⟨trivial, rfl⟩
    | finite t n f pos' =>
      have number : (m : Rat) * 2 ^ e * (n * 2 ^ f) = (m * n : Nat) * 2 ^ (e + f) := by
        rw [two_zpow_add, Nat.cast_mul, mul_mul_mul_comm]
      have some : 0 < m * n := Nat.mul_pos pos pos'
      rw [exact_finite, exact_finite, ← signed_mul, number,
        nearest_signed format _ (number_pos some _).le, mul_finite]
      refine exact_rounded (s * t) some ?_
      -- a number that has all its bits makes a product that has as many, and two that have
      -- not are too small to make one
      obtain long | least := Fits.long ha
      · exact .inl (long.trans (Nat.le_mul_of_pos_right m pos'))
      · obtain long | least' := Fits.long hb
        · exact .inl (long.trans (Nat.le_mul_of_pos_left n pos))
        · exact .inr (by omega)

/-- A quotient has one bit less than the bits say, or as many. -/
theorem two_zpow_le_div {x y : Rat} (px : 0 < x) (py : 0 < y) :
    2 ^ (Int.log 2 x - Int.log 2 y - 1) ≤ x / y := by
  rw [le_div_iff₀ py]
  calc (2 : Rat) ^ (Int.log 2 x - Int.log 2 y - 1) * y
      ≤ 2 ^ (Int.log 2 x - Int.log 2 y - 1) * 2 ^ (Int.log 2 y + 1) :=
        mul_le_mul_of_nonneg_left (Int.lt_zpow_succ_log_self Nat.one_lt_two y).le
          (two_zpow_pos _).le
    _ = 2 ^ Int.log 2 x := by
        rw [← two_zpow_add]
        congr 1
        omega
    _ ≤ x := Int.zpow_log_le_self Nat.one_lt_two px

/-- A value above zero has its bits. -/
theorem exists_finite_of_pos (ha : Canonical format a) (above : 0 < exact a) :
    ∃ m e, ∃ pos : 0 < m, a = .finite .positive m e pos ∧ exact a = m * 2 ^ e := by
  cases a with
  | infinity | notANumber => cases ha
  | zero s => exact absurd above (lt_irrefl _)
  | finite s m e pos =>
    cases s with
    | positive => exact ⟨m, e, pos, rfl, exact_finite ..⟩
    | negative =>
      rw [exact_finite] at above
      exact absurd above (neg_neg_of_pos (number_pos pos e)).not_gt

/-- **Quotients are rounded to the nearest number**, unless they are less than any
number of the format. -/
theorem exact_div (ha : Canonical format a) (hb : Canonical format b) (above : 0 < exact a)
    (above' : 0 < exact b) (normal : 2 ^ format.minExponent ≤ exact a / exact b) :
    Canonical format (.div format a b) ∧
      exact (.div format a b) = nearest format (exact a / exact b) := by
  obtain ⟨m, e, pos, rfl, ea⟩ := exists_finite_of_pos ha above
  obtain ⟨n, f, pos', rfl, eb⟩ := exists_finite_of_pos hb above'
  have px := number_pos pos e
  have py := number_pos pos' f
  rw [ea, eb] at normal ⊢
  rw [nearest_of_nonneg (div_pos px py).le]
  -- what the bits say about the size of the quotient
  have large := two_zpow_le_div px py
  have lx := log_number pos e
  have ly := log_number pos' f
  have lq := (Int.zpow_le_iff_le_log Nat.one_lt_two (div_pos px py)).1 large
  obtain ⟨t, ht⟩ : ∃ t, t = min (e - f)
    (format.targetExponent (totalExponent m e - totalExponent n f)) := ⟨_, rfl⟩
  have core : UnpackedFloat.div format (.finite .positive m e pos) (.finite .positive n f pos') =
      .roundWithAccuracy format .positive ((m <<< (e - f - t).toNat) / n) t
        (accuracyOfFraction ((m <<< (e - f - t).toNat) % n) n) := by
    rw [ht]
    rfl
  unfold Format.targetExponent Format.mantissaBits at ht
  have number : (m : Rat) * 2 ^ e / (n * 2 ^ f) / 2 ^ t = (m <<< (e - f - t).toNat : Nat) / n := by
    have exponents : e = (e - f - t).toNat + (f + t) := by omega
    rw [div_div, div_eq_div_iff (mul_pos py (two_zpow_pos t)).ne' (Nat.cast_pos.2 pos').ne',
      Nat.shiftLeft_eq, Nat.cast_mul, Nat.cast_pow, Nat.cast_ofNat, ← zpow_natCast]
    nth_rewrite 1 [exponents]
    rw [two_zpow_add, two_zpow_add]
    ring
  rw [core]
  refine exact_roundWithAccuracy .positive ?_ ?_ ?_
  · rw [number]
    exact marks_quotient _ pos'
  · -- the quotient is not less than one of the units that it is counted in
    have whole : 2 ^ t ≤ (m : Rat) * 2 ^ e / (n * 2 ^ f) := by
      obtain first | last : t ≤ Int.log 2 ((m : Rat) * 2 ^ e) - Int.log 2 ((n : Rat) * 2 ^ f) - 1 ∨
          t ≤ format.minExponent := by omega
      · exact (two_zpow_le first).trans large
      · exact (two_zpow_le last).trans normal
    have some := (one_le_div (two_zpow_pos t)).2 whole
    rw [number, one_le_div (Nat.cast_pos.2 pos')] at some
    exact Nat.div_pos (Nat.cast_le.1 some) pos'
  · unfold unit Format.targetExponent Format.mantissaBits
    omega

end Value

/-! ## Single precision -/

namespace Float32

variable {x y : Float32} {n : Nat}

/-- **The number that a coordinate stands for**, and zero for one that is no number or
infinite. -/
def exact (x : Float32) : Rat := Value.exact x.toModel.unpack

/-- What a finite coordinate is unpacked to is in the form of the format. -/
theorem canonical (finite : x.isFinite = true) : Value.Canonical .binary32 x.toModel.unpack :=
  Value.canonical_unpack finite

/-- **Finite coordinates are ordered as the numbers that they stand for.** -/
theorem lt_iff (hx : x.isFinite = true) (hy : y.isFinite = true) : x < y ↔ exact x < exact y :=
  decide_eq_true_iff.trans (Value.lt_iff (canonical hx) (canonical hy))

theorem le_iff (hx : x.isFinite = true) (hy : y.isFinite = true) : x ≤ y ↔ exact x ≤ exact y :=
  decide_eq_true_iff.trans (Value.le_iff (canonical hx) (canonical hy))

/-- A value that is not too large is packed without loss. -/
theorem exact_packed {v : UnpackedFloat} (hv : Value.Canonical .binary32 v)
    (small : |Value.exact v| < 2 ^ 128) :
    (Float32.ofModel (.pack v)).isFinite = true ∧ exact (.ofModel (.pack v)) = Value.exact v := by
  have same : (Float32.Model.pack v).unpack = v :=
    Value.unpack_pack_of_lt (by decide) hv (by exact_mod_cast small)
  refine ⟨?_, congrArg Value.exact same⟩
  show (Float32.Model.pack v).unpack.isFinite = true
  rw [same]
  exact Value.isFinite_of_canonical hv

/-- **Products are rounded to the nearest number.** -/
theorem exact_mul (hx : x.isFinite = true) (hy : y.isFinite = true)
    (small : |Value.nearest .binary32 (exact x * exact y)| < 2 ^ 128) :
    (x * y).isFinite = true ∧ exact (x * y) = Value.nearest .binary32 (exact x * exact y) := by
  obtain ⟨bits, value⟩ := Value.exact_mul (by decide) (canonical hx) (canonical hy)
  obtain ⟨finite, same⟩ := exact_packed bits (value ▸ small)
  exact ⟨finite, same.trans value⟩

/-- **Quotients are rounded to the nearest number.** -/
theorem exact_div (hx : x.isFinite = true) (hy : y.isFinite = true) (above : 0 < exact x)
    (above' : 0 < exact y) (normal : 2 ^ (-149 : Int) ≤ exact x / exact y)
    (small : |Value.nearest .binary32 (exact x / exact y)| < 2 ^ 128) :
    (x / y).isFinite = true ∧ exact (x / y) = Value.nearest .binary32 (exact x / exact y) := by
  obtain ⟨bits, value⟩ := Value.exact_div (canonical hx) (canonical hy) above above' normal
  obtain ⟨finite, same⟩ := exact_packed bits (value ▸ small)
  exact ⟨finite, same.trans value⟩

/-- The number nearest to a whole number of sixty-four bits is not too large. -/
theorem nearest_natCast_lt (small : n < 2 ^ 64) : |Value.nearest .binary32 n| < 2 ^ 128 := by
  have least : Value.nearest .binary32 0 ≤ Value.nearest .binary32 n :=
    Value.nearest_mono (Nat.cast_nonneg n)
  have most : Value.nearest .binary32 n ≤ Value.nearest .binary32 (2 ^ (64 : Int)) :=
    Value.nearest_mono (by exact_mod_cast small.le)
  rw [Value.nearest_zero] at least
  rw [Value.nearest_two_zpow (by decide)] at most
  rw [abs_of_nonneg least]
  exact most.trans_lt (by norm_num)

/-- A number with few bits is multiplied with one. -/
theorem ofNat_of_lt (few : n < 2 ^ 23) : Float32.ofNat n =
    .ofModel (.pack (.normalize .binary32 n 0 .positive)) * .ofBits 0x3F800000 := by
  have whole : n.toUInt64.toNat = n := UInt64.toNat_ofNat_of_lt (few.trans (by decide))
  have product : Float32.ofNat n = n.toUInt64.toFloat32 * .ofBits 0x3F800000 := by
    show Float32.ofScientific n false 0 = _
    unfold Float32.ofScientific
    rw [dif_pos ⟨few, by decide⟩]
    rfl
  rw [product]
  show Float32.ofModel (.pack (.normalize .binary32 n.toUInt64.toNat 0 .positive)) * _ = _
  rw [whole]

/-- A number with more bits is rounded with all of them and twenty-four more. -/
theorem ofNat_of_le (many : 2 ^ 23 ≤ n) : Float32.ofNat n =
    .ofModel (.pack (.roundWithAccuracy .binary32 .positive (n * 2 ^ 24) (-24) .exact)) := by
  have few : ¬ n = 0 := by omega
  have wide : (0 : Int) ≤ 2 ^ Format.binary32.exponentBits := pow_nonneg zero_le_two _
  have bits : UnpackedFloat.ofScientific .binary32 n 0 =
      .roundWithAccuracy .binary32 .positive (n * 2 ^ 24) (-24) .exact := by
    unfold UnpackedFloat.ofScientific
    rw [dif_neg few, if_neg (by decide), if_neg (by omega), if_pos le_rfl, Value.mul_finite,
      Nat.shiftLeft_eq, Int.toNat_zero, pow_zero, mul_one]
    rfl
  show Float32.ofScientific n false 0 = _
  unfold Float32.ofScientific
  rw [dif_neg fun h => absurd h.1 many.not_gt, ← bits]
  rfl

/-- **A whole number is rounded to the nearest coordinate.** -/
theorem exact_ofNat (small : n < 2 ^ 64) :
    (Float32.ofNat n).isFinite = true ∧ exact (.ofNat n) = Value.nearest .binary32 n := by
  have large := nearest_natCast_lt small
  by_cases few : n < 2 ^ 23
  · obtain ⟨bits, value⟩ := Value.exact_normalize .binary32 n 0 .positive
    rw [zpow_zero, mul_one, Int.cast_natCast] at value
    obtain ⟨finite, read⟩ := exact_packed bits (value ▸ large)
    have one : (Float32.ofBits 0x3F800000).isFinite = true ∧ exact (.ofBits 0x3F800000) = 1 := by
      decide +kernel
    have again := Value.nearest_exact bits
    rw [value] at again read
    have product := exact_mul finite one.1 (by rwa [one.2, mul_one, read, again])
    rwa [one.2, mul_one, read, again, ← ofNat_of_lt few] at product
  · have many : 2 ^ 23 ≤ n := Nat.not_lt.1 few
    have unit : ((n * 2 ^ 24 : Nat) : Rat) * 2 ^ (-24 : Int) = n := by
      rw [Nat.cast_mul, Value.cast_two_pow, mul_assoc, ← Value.two_zpow_add]
      exact mul_one _
    have long : 2 ^ Format.binary32.mantissaBitsWithoutImplicit ≤ n * 2 ^ 24 := by
      show 2 ^ 23 ≤ n * 2 ^ 24
      omega
    obtain ⟨bits, value⟩ := @Value.exact_rounded .binary32 .positive _ (-24)
      (show 0 < n * 2 ^ 24 by omega) (.inl long)
    rw [unit] at value
    have number : Value.exact _ = Value.nearest .binary32 n :=
      value.trans (Value.nearest_of_nonneg (Nat.cast_nonneg n)).symm
    rw [ofNat_of_le many, ← number]
    exact exact_packed bits (number ▸ large)

end Float32

/-! ## Double precision -/

namespace Float

variable {x y : Float}

/-- **The number that a ratio stands for**, and zero for one that is no number or
infinite. -/
def exact (x : Float) : Rat := Value.exact x.toModel.unpack

/-- What a finite ratio is unpacked to is in the form of the format. -/
theorem canonical (finite : x.isFinite = true) : Value.Canonical .binary64 x.toModel.unpack :=
  Value.canonical_unpack finite

/-- **Finite ratios are ordered as the numbers that they stand for.** -/
theorem lt_iff (hx : x.isFinite = true) (hy : y.isFinite = true) : x < y ↔ exact x < exact y :=
  decide_eq_true_iff.trans (Value.lt_iff (canonical hx) (canonical hy))

theorem le_iff (hx : x.isFinite = true) (hy : y.isFinite = true) : x ≤ y ↔ exact x ≤ exact y :=
  decide_eq_true_iff.trans (Value.le_iff (canonical hx) (canonical hy))

theorem beq_iff (hx : x.isFinite = true) (hy : y.isFinite = true) :
    (x == y) = true ↔ exact x = exact y :=
  Value.beq_iff (canonical hx) (canonical hy)

/-- What lies between two finite ratios is finite. -/
theorem isFinite_of_lt {z : Float} (hx : x.isFinite = true) (hz : z.isFinite = true) (low : x < y)
    (high : y < z) : y.isFinite = true :=
  Value.isFinite_of_le (a := x.toModel.unpack) (c := z.toModel.unpack) hx hz
    (Value.le_of_lt (of_decide_eq_true low)) (Value.le_of_lt (of_decide_eq_true high))

/-- **Differences are rounded to the nearest number**, if they are finite. -/
theorem exact_sub (hx : x.isFinite = true) (hy : y.isFinite = true)
    (finite : (x - y).isFinite = true) :
    exact (x - y) = Value.nearest .binary64 (exact x - exact y) := by
  obtain ⟨bits, value⟩ := Value.exact_sub (canonical hx) (canonical hy)
  exact (congrArg Value.exact (Value.unpack_pack (by decide) bits finite)).trans value

end Float

end Projector
