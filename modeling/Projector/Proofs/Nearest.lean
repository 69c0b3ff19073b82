import Mathlib.Data.Int.Log
import Mathlib.Data.Rat.Floor
import Mathlib.Tactic.Linarith
import Mathlib.Tactic.NormNum
import Mathlib.Tactic.Ring
import Projector.Proofs.Naught

/-!
# The nearest number of a format

A binary format has numbers that are so many units, where the unit is a power of
two that depends on how large the number is. What is worked out in such a format is
the number that is nearest to the exact result. `Value.nearest` says which one this
is, for every rational number and without any bits: count the number in its unit,
take the whole number nearest to that, and of two the even one.

Two properties of it are all that is needed elsewhere. It keeps the order, and it
leaves the numbers of the format as they are. So a comparison with a number of the
format that comes out true after rounding was true before.

The rest of the module is about bits. A mantissa with two more bits, one for a half
and one for whatever is below, stands for a range of numbers, `Value.Marks`, and
this is kept when bits are shifted out. Rounding in the end gives the nearest number,
`Value.exact_roundWithAccuracy`, in the form that the format prescribes.
-/

namespace Projector

open Float.Model (Format UnpackedFloat totalExponent)
open Float.Model.UnpackedFloat (Accuracy ExtendedMantissa Sign accuracyOfFraction decreaseExponent
  shiftToExponent shiftToTargetExponent)

namespace Value

/-! ## Whole numbers -/

/-- **The nearest whole number**, and of two the even one. -/
def halfEven (x : Rat) : Nat :=
  let floor := ⌊x⌋₊
  if x - floor < 1 / 2 then floor
  else if 1 / 2 < x - floor then floor + 1
  else floor + floor % 2

theorem floor_le_halfEven (x : Rat) : ⌊x⌋₊ ≤ halfEven x := by
  unfold halfEven
  dsimp only
  split_ifs <;> omega

theorem halfEven_le_floor (x : Rat) : halfEven x ≤ ⌊x⌋₊ + 1 := by
  unfold halfEven
  dsimp only
  split_ifs <;> omega

theorem halfEven_natCast (n : Nat) : halfEven n = n := by
  unfold halfEven
  simp

/-- **The order is kept.** -/
theorem halfEven_mono {x y : Rat} (h : x ≤ y) : halfEven x ≤ halfEven y := by
  obtain below | same := (Nat.floor_mono h).lt_or_eq
  · exact (halfEven_le_floor x).trans (below.trans_le (floor_le_halfEven y))
  · unfold halfEven
    dsimp only
    rw [same]
    split_ifs <;> first | omega | linarith

/-! ## Numbers of a format -/

/-- **The unit in which a number is counted**, as a power of two. -/
def unit (format : Format) (x : Rat) : Int := format.targetExponent (Int.log 2 x + 1)

/-- The number of a format that is nearest to a number that is not below zero. -/
def magnitude (format : Format) (x : Rat) : Rat :=
  halfEven (x / 2 ^ unit format x) * 2 ^ unit format x

/-- **The number of a format that is nearest to a number.** -/
def nearest (format : Format) (x : Rat) : Rat :=
  if 0 ≤ x then magnitude format x else -magnitude format (-x)

/-- **A mantissa and an exponent in the form that a format prescribes**: there are
not too many bits, and as many as there can be unless the exponent is the least. -/
structure Fits (format : Format) (m : Nat) (e : Int) : Prop where
  /-- There are not too many bits. -/
  short : m < 2 ^ format.mantissaBits
  /-- The exponent is not below the least. -/
  least : format.minExponent ≤ e
  /-- There are all bits, or the exponent is the least. -/
  long : 2 ^ format.mantissaBitsWithoutImplicit ≤ m ∨ e = format.minExponent

variable {format : Format} {x y : Rat}

theorem two_zpow_pos (e : Int) : (0 : Rat) < 2 ^ e := zpow_pos two_pos e

theorem two_zpow_add (e f : Int) : (2 : Rat) ^ (e + f) = 2 ^ e * 2 ^ f := zpow_add₀ two_ne_zero e f

theorem two_zpow_le {e f : Int} (h : e ≤ f) : (2 : Rat) ^ e ≤ 2 ^ f :=
  zpow_le_zpow_right₀ one_le_two h

theorem cast_two_pow (k : Nat) : ((2 ^ k : Nat) : Rat) = 2 ^ (k : Int) := by
  rw [zpow_natCast, Nat.cast_pow, Nat.cast_ofNat]

/-- Bits are counted in their own unit. -/
theorem number_div (m : Nat) (e : Int) : (m : Rat) * 2 ^ e / 2 ^ e = m :=
  mul_div_cancel_right₀ _ (two_zpow_pos e).ne'

theorem number_pos {m : Nat} (pos : 0 < m) (e : Int) : (0 : Rat) < m * 2 ^ e :=
  mul_pos (Nat.cast_pos.2 pos) (two_zpow_pos e)

/-- A power of two, counted in a smaller one. -/
theorem two_zpow_div {e f : Int} (h : f ≤ e) :
    (2 : Rat) ^ e / 2 ^ f = (2 ^ (e - f).toNat : Nat) := by
  rw [div_eq_iff (two_zpow_pos f).ne', cast_two_pow, ← two_zpow_add,
    Int.toNat_of_nonneg (Int.sub_nonneg.2 h), Int.sub_add_cancel]

/-- It is a whole number. -/
theorem halfEven_two_zpow_div {e f : Int} (h : f ≤ e) :
    (halfEven (2 ^ e / 2 ^ f) : Rat) = 2 ^ e / 2 ^ f := by
  rw [two_zpow_div h, halfEven_natCast]

theorem magnitude_nonneg (format : Format) (x : Rat) : 0 ≤ magnitude format x :=
  mul_nonneg (Nat.cast_nonneg _) (two_zpow_pos _).le

@[simp] theorem magnitude_zero (format : Format) : magnitude format 0 = 0 := by
  have none : halfEven 0 = 0 := halfEven_natCast 0
  unfold magnitude
  rw [zero_div, none, Nat.cast_zero, zero_mul]

@[simp] theorem nearest_zero (format : Format) : nearest format 0 = 0 :=
  (if_pos le_rfl).trans (magnitude_zero format)

theorem nearest_of_nonneg (h : 0 ≤ x) : nearest format x = magnitude format x := if_pos h

theorem nearest_neg (format : Format) (x : Rat) : nearest format (-x) = -nearest format x := by
  obtain neg | rfl | pos := lt_trichotomy x 0
  · unfold nearest
    rw [if_pos (neg_nonneg.2 neg.le), if_neg neg.not_ge, neg_neg]
  · simp
  · unfold nearest
    rw [if_neg (neg_neg_of_pos pos).not_ge, if_pos pos.le, neg_neg]

/-! ### The order -/

theorem minExponent_le_unit (format : Format) (x : Rat) : format.minExponent ≤ unit format x :=
  le_max_right _ _

theorem unit_mono (pos : 0 < x) (h : x ≤ y) : unit format x ≤ unit format y :=
  max_le_max (Int.sub_le_sub_right (Int.add_le_add_right (Int.log_mono_right pos h) 1) _) le_rfl

/-- Where the unit grows there is a power of two between, and it is a whole number of
either unit. -/
theorem exists_between (pos : 0 < x) (h : x ≤ y) (grows : unit format x < unit format y) :
    x ≤ 2 ^ Int.log 2 y ∧ (2 : Rat) ^ Int.log 2 y ≤ y ∧ unit format y ≤ Int.log 2 y := by
  have counted (z : Rat) : unit format z =
      max (Int.log 2 z + 1 - (1 + format.mantissaBitsWithoutImplicit : Nat)) format.minExponent :=
    rfl
  rw [counted, counted] at grows
  rw [counted]
  have less : Int.log 2 x < Int.log 2 y := by omega
  exact ⟨((Int.lt_zpow_iff_log_lt Nat.one_lt_two pos).2 less).le,
    Int.zpow_log_le_self Nat.one_lt_two (pos.trans_le h), by omega⟩

/-- **The order is kept**, above zero. -/
theorem magnitude_mono (pos : 0 < x) (h : x ≤ y) : magnitude format x ≤ magnitude format y := by
  have order : unit format x ≤ unit format y := unit_mono pos h
  obtain grows | same := order.lt_or_eq
  · obtain ⟨below, above, whole⟩ := exists_between pos h grows
    -- both are rounded to the side of the power of two on which they are
    calc magnitude format x
        ≤ (2 : Rat) ^ Int.log 2 y / 2 ^ unit format x * 2 ^ unit format x := by
          refine mul_le_mul_of_nonneg_right ?_ (two_zpow_pos _).le
          rw [← halfEven_two_zpow_div (grows.le.trans whole)]
          refine Nat.cast_le.2 (halfEven_mono ?_)
          exact div_le_div_of_nonneg_right below (two_zpow_pos _).le
      _ = (2 : Rat) ^ Int.log 2 y / 2 ^ unit format y * 2 ^ unit format y := by
          rw [div_mul_cancel₀ _ (two_zpow_pos _).ne', div_mul_cancel₀ _ (two_zpow_pos _).ne']
      _ ≤ magnitude format y := by
          refine mul_le_mul_of_nonneg_right ?_ (two_zpow_pos _).le
          rw [← halfEven_two_zpow_div whole]
          refine Nat.cast_le.2 (halfEven_mono ?_)
          exact div_le_div_of_nonneg_right above (two_zpow_pos _).le
  · unfold magnitude
    rw [same]
    exact mul_le_mul_of_nonneg_right
      (Nat.cast_le.2 (halfEven_mono (div_le_div_of_nonneg_right h (two_zpow_pos _).le)))
      (two_zpow_pos _).le

/-- **The order is kept.** -/
theorem nearest_mono (h : x ≤ y) : nearest format x ≤ nearest format y := by
  unfold nearest
  obtain neg | rfl | pos := lt_trichotomy x 0
  · rw [if_neg neg.not_ge]
    split_ifs with side
    · exact (neg_nonpos.2 (magnitude_nonneg _ _)).trans (magnitude_nonneg _ _)
    · exact neg_le_neg (magnitude_mono (neg_pos.2 (not_le.1 side)) (neg_le_neg h))
  · rw [if_pos le_rfl, if_pos h, magnitude_zero]
    exact magnitude_nonneg _ _
  · rw [if_pos pos.le, if_pos (pos.le.trans h)]
    exact magnitude_mono pos h

/-! ### Numbers of the format -/

/-- A number between two powers of two, by its logarithm. -/
theorem log_eq {k : Int} (low : (2 : Rat) ^ k ≤ x) (high : x < 2 ^ (k + 1)) : Int.log 2 x = k := by
  have pos : 0 < x := (two_zpow_pos k).trans_le low
  have least := (Int.zpow_le_iff_le_log Nat.one_lt_two pos).1 low
  have most := (Int.lt_zpow_iff_log_lt Nat.one_lt_two pos).1 high
  omega

/-- The logarithm of a number is found by its leading bits, wherever it is cut off. -/
theorem log_of_bits {m : Nat} {e : Int} (pos : 0 < m) (low : (m : Rat) ≤ x / 2 ^ e)
    (high : x / 2 ^ e < m + 1) : Int.log 2 x + 1 = totalExponent m e := by
  rw [le_div_iff₀ (two_zpow_pos e)] at low
  rw [div_lt_iff₀ (two_zpow_pos e)] at high
  have log : Int.log 2 x = m.log2 + e := by
    refine log_eq ?_ ?_
    · rw [two_zpow_add, zpow_natCast]
      refine le_trans (mul_le_mul_of_nonneg_right ?_ (two_zpow_pos e).le) low
      exact_mod_cast Nat.log2_self_le (Nat.ne_of_gt pos)
    · rw [Int.add_right_comm, two_zpow_add]
      refine high.trans_le (mul_le_mul_of_nonneg_right ?_ (two_zpow_pos e).le)
      exact_mod_cast Nat.lt_log2_self (n := m)
  rw [log, Int.add_right_comm]
  rfl

/-- **So is its unit.** -/
theorem unit_eq {m : Nat} {e : Int} (pos : 0 < m) (low : (m : Rat) ≤ x / 2 ^ e)
    (high : x / 2 ^ e < m + 1) : unit format x = format.targetExponent (totalExponent m e) :=
  congrArg format.targetExponent (log_of_bits pos low high)

/-- For a number with no more bits nothing is cut off. -/
theorem log_number {m : Nat} (pos : 0 < m) (e : Int) :
    Int.log 2 ((m : Rat) * 2 ^ e) + 1 = totalExponent m e :=
  log_of_bits pos (number_div m e).ge ((number_div m e).trans_lt (lt_add_one _))

theorem unit_number {m : Nat} (pos : 0 < m) (e : Int) :
    unit format (m * 2 ^ e) = format.targetExponent (totalExponent m e) :=
  congrArg format.targetExponent (log_number pos e)

namespace Fits

variable {m : Nat} {e : Int}

/-- The exponent is the one that the format prescribes. -/
theorem targetExponent_eq (h : Fits format m e) (pos : 0 < m) :
    format.targetExponent (totalExponent m e) = e := by
  have few : m.log2 < format.mantissaBits := (Nat.log2_lt (Nat.ne_of_gt pos)).2 h.short
  have least := h.least
  unfold Format.targetExponent totalExponent
  unfold Format.mantissaBits at few ⊢
  obtain long | rfl := h.long
  · have many := (Nat.le_log2 (Nat.ne_of_gt pos)).2 long
    omega
  · omega

/-- **A number of the format is its own nearest one.** -/
theorem magnitude_eq (h : Fits format m e) : magnitude format (m * 2 ^ e) = m * 2 ^ e := by
  obtain rfl | pos := Nat.eq_zero_or_pos m
  · simp
  have unit : unit format (m * 2 ^ e) = e := by rw [unit_number pos, h.targetExponent_eq pos]
  unfold magnitude
  rw [unit, number_div, halfEven_natCast]

end Fits

/-! ## Bits -/

/-- **The numbers that a mantissa with two more bits stands for**: one is set for a
half, the other one for whatever is below. -/
inductive Marks : ExtendedMantissa → Rat → Prop
  /-- Nothing is left over. -/
  | exact (m : Nat) : Marks ⟨m, false, false⟩ m
  /-- Less than a half is left over. -/
  | below {m : Nat} {x : Rat} (low : m < x) (high : x < m + 1 / 2) : Marks ⟨m, false, true⟩ x
  /-- One half is left over. -/
  | half (m : Nat) : Marks ⟨m, true, false⟩ (m + 1 / 2)
  /-- More than a half is left over. -/
  | above {m : Nat} {x : Rat} (low : m + 1 / 2 < x) (high : x < m + 1) : Marks ⟨m, true, true⟩ x

namespace Marks

variable {em : ExtendedMantissa}

theorem bounds (h : Marks em x) : em.mantissa ≤ x ∧ x < em.mantissa + 1 := by
  cases h with
  | exact m => exact ⟨le_rfl, lt_add_one _⟩
  | below low high => exact ⟨low.le, by dsimp only; linarith⟩
  | half m => exact ⟨by dsimp only; linarith, by dsimp only; linarith⟩
  | above low high => exact ⟨by dsimp only; linarith, high⟩

theorem floor_eq (h : Marks em x) : ⌊x⌋₊ = em.mantissa :=
  (Nat.floor_eq_iff ((Nat.cast_nonneg _).trans h.bounds.1)).2 h.bounds

/-- **The mantissa is rounded as the number is.** -/
theorem roundedMantissa_eq (h : Marks em x) : em.roundedMantissa = halfEven x := by
  have floor := h.floor_eq
  unfold halfEven
  dsimp only
  rw [floor]
  cases h with
  | exact m => rw [sub_self, if_pos (by norm_num)]; rfl
  | below low high => rw [if_pos (sub_lt_iff_lt_add'.2 high)]; rfl
  | half m => rw [add_sub_cancel_left, if_neg (lt_irrefl _), if_neg (lt_irrefl _)]; rfl
  | above low high =>
    have more := lt_sub_iff_add_lt'.2 low
    rw [if_neg more.not_gt, if_pos more]
    rfl

/-- A bit is shifted out. -/
theorem shiftRightOne (h : Marks em x) : Marks em.shiftRightOne (x / 2) := by
  -- the bit that goes is the half of what is left, and what was left makes it more
  have bit (m : Nat) : (∃ k, m = 2 * k ∧ m / 2 = k ∧ (m % 2 != 0) = false) ∨
      ∃ k, m = 2 * k + 1 ∧ m / 2 = k ∧ (m % 2 != 0) = true := by
    obtain ⟨k, rfl | rfl⟩ := Nat.even_or_odd' m
    · exact .inl ⟨k, rfl, by omega, by simp⟩
    · exact .inr ⟨k, rfl, by omega, by simp⟩
  unfold ExtendedMantissa.shiftRightOne
  cases h with
  | exact m =>
    obtain ⟨k, rfl, half, parity⟩ | ⟨k, rfl, half, parity⟩ := bit m <;>
      simp only [half, parity, Bool.or_false]
    · have number : ((2 * k : Nat) : Rat) / 2 = k := by push_cast; linarith
      rw [number]
      exact .exact k
    · have number : ((2 * k + 1 : Nat) : Rat) / 2 = k + 1 / 2 := by push_cast; linarith
      rw [number]
      exact .half k
  | @below m x low high | @above m x low high =>
    obtain ⟨k, rfl, half, parity⟩ | ⟨k, rfl, half, parity⟩ := bit m <;>
      simp only [half, parity, Bool.or_true] <;> push_cast at low high
    · exact .below (by linarith) (by linarith)
    · exact .above (by linarith) (by linarith)
  | half m =>
    obtain ⟨k, rfl, half, parity⟩ | ⟨k, rfl, half, parity⟩ := bit m <;>
      simp only [half, parity, Bool.or_false] <;> push_cast
    · exact .below (by linarith) (by linarith)
    · exact .above (by linarith) (by linarith)

/-- **Bits are shifted out.** -/
theorem shiftRight (h : Marks em x) (n : Nat) : Marks (em >>> n) (x / 2 ^ n) := by
  induction n with
  | zero =>
    rw [pow_zero, div_one]
    exact h
  | succ n ih =>
    rw [pow_succ, ← div_div]
    exact ih.shiftRightOne

end Marks

theorem marks_exact (m : Nat) : Marks (.ofMantissaAndAccuracy m .exact) m := .exact m

/-- **A quotient is marked** by its whole part and by what the remainder says. -/
theorem marks_quotient (n : Nat) {d : Nat} (pos : 0 < d) :
    Marks (.ofMantissaAndAccuracy (n / d) (accuracyOfFraction (n % d) d)) (n / d) := by
  have pos' : (0 : Rat) < d := Nat.cast_pos.2 pos
  have split : (n : Rat) = d * (n / d : Nat) + (n % d : Nat) := by
    exact_mod_cast (Nat.div_add_mod n d).symm
  have number : (n : Rat) / d = (n / d : Nat) + (n % d : Nat) / d := by
    rw [div_eq_iff pos'.ne', add_mul, div_mul_cancel₀ _ pos'.ne', mul_comm _ (d : Rat)]
    exact split
  have less : ((n % d : Nat) : Rat) / d < 1 := by
    rw [div_lt_one pos']
    exact_mod_cast Nat.mod_lt n pos
  rw [number]
  unfold accuracyOfFraction
  obtain none | some := Nat.eq_zero_or_pos (n % d)
  · rw [if_pos none, none, Nat.cast_zero, zero_div, add_zero]
    exact .exact _
  · have some' : (0 : Rat) < (n % d : Nat) / d := div_pos (Nat.cast_pos.2 some) pos'
    rw [if_neg (Nat.ne_of_gt some)]
    obtain low | same | high := Nat.lt_trichotomy (2 * (n % d)) d
    · rw [Nat.compare_eq_lt.2 low]
      have low : ((n % d : Nat) : Rat) / d < 1 / 2 := by
        rw [div_lt_div_iff₀ pos' two_pos, mul_comm, one_mul]
        exact_mod_cast low
      exact .below (by linarith) (by linarith)
    · rw [Nat.compare_eq_eq.2 same]
      have same : ((n % d : Nat) : Rat) / d = 1 / 2 := by
        rw [div_eq_div_iff pos'.ne' two_ne_zero, mul_comm, one_mul]
        exact_mod_cast same
      rw [same]
      exact .half _
    · rw [Nat.compare_eq_gt.2 high]
      have high : 1 / 2 < ((n % d : Nat) : Rat) / d := by
        rw [div_lt_div_iff₀ two_pos pos', mul_comm _ (2 : Rat), one_mul]
        exact_mod_cast high
      exact .above (by linarith) (by linarith)

/-! ## Rounding -/

/-- A number with a sign. -/
def signed : Sign → Rat → Rat
  | .negative, x => -x
  | .positive, x => x

/-- **The number that a value stands for**, and zero for a value that is no number or
infinite. -/
def exact : UnpackedFloat → Rat
  | .finite s m e _ => (s.apply m : Int) * 2 ^ e
  | _ => 0

theorem exact_finite (s : Sign) (m : Nat) (e : Int) (pos : 0 < m) :
    exact (.finite s m e pos) = signed s (m * 2 ^ e) := by
  cases s with
  | positive => rfl
  | negative =>
    show ((-(m : Int) : Int) : Rat) * 2 ^ e = -((m : Rat) * 2 ^ e)
    rw [Int.cast_neg, Int.cast_natCast, neg_mul]

/-- A sign is kept. -/
theorem nearest_signed (format : Format) (s : Sign) (nonneg : 0 ≤ x) :
    nearest format (signed s x) = signed s (magnitude format x) := by
  cases s with
  | positive => exact nearest_of_nonneg nonneg
  | negative => exact (nearest_neg format x).trans (congrArg Neg.neg (nearest_of_nonneg nonneg))

/-- **A finite value in the form that a format prescribes.** -/
def Canonical (format : Format) : UnpackedFloat → Prop
  | .zero _ => True
  | .finite _ m e _ => Fits format m e
  | _ => False

/-- Bits that are where the format wants them stay there. -/
theorem shiftToTargetExponent_of_le {m : Nat} {e : Int}
    (there : format.targetExponent (totalExponent m e) ≤ e) :
    shiftToTargetExponent format m e .exact = (⟨m, false, false⟩, e) := by
  unfold shiftToTargetExponent shiftToExponent
  dsimp only
  rw [Int.toNat_of_nonpos (Int.sub_nonpos_of_le there)]
  exact Prod.ext rfl (Int.add_zero e)

/-- There is one bit more than is written. -/
theorem two_pow_mantissaBits (format : Format) :
    2 ^ format.mantissaBits = 2 * 2 ^ format.mantissaBitsWithoutImplicit := by
  unfold Format.mantissaBits
  rw [Nat.add_comm, Nat.pow_succ, Nat.mul_comm]

/-- **Rounding may give one bit too many**, and then it is a zero that goes. -/
theorem exists_carried {m : Nat} {e : Int} (most : m ≤ 2 ^ format.mantissaBits)
    (least : format.minExponent ≤ e)
    (long : 2 ^ format.mantissaBitsWithoutImplicit ≤ m ∨ e = format.minExponent) :
    ∃ n f, shiftToTargetExponent format m e .exact = (⟨n, false, false⟩, f) ∧
      (n : Rat) * 2 ^ f = m * 2 ^ e ∧ Fits format n f := by
  obtain short | rfl := most.lt_or_eq
  · have fits : Fits format m e := ⟨short, least, long⟩
    refine ⟨m, e, shiftToTargetExponent_of_le ?_, rfl, fits⟩
    obtain rfl | pos := Nat.eq_zero_or_pos m
    · have none : format.targetExponent (totalExponent 0 e) =
          max (0 + 1 + e - (1 + format.mantissaBitsWithoutImplicit : Nat)) format.minExponent := rfl
      omega
    · exact (fits.targetExponent_eq pos).le
  · have target : format.targetExponent (totalExponent (2 ^ format.mantissaBits) e) = e + 1 := by
      unfold Format.targetExponent totalExponent
      rw [Nat.log2_two_pow]
      omega
    have twice := two_pow_mantissaBits format
    have half : 2 ^ format.mantissaBits / 2 = 2 ^ format.mantissaBitsWithoutImplicit := by omega
    have more : 0 < 2 ^ format.mantissaBitsWithoutImplicit := Nat.two_pow_pos _
    refine ⟨2 ^ format.mantissaBitsWithoutImplicit, e + 1, ?_, ?_, by omega, by omega, .inl le_rfl⟩
    · unfold shiftToTargetExponent shiftToExponent
      dsimp only
      rw [target, add_sub_cancel_left]
      refine Prod.ext ?_ rfl
      show (⟨2 ^ format.mantissaBits / 2, 2 ^ format.mantissaBits % 2 != 0, false⟩ :
        ExtendedMantissa) = _
      rw [half, twice, Nat.mul_mod_right]
      rfl
    · rw [twice, two_zpow_add, zpow_one]
      push_cast
      ring

/-- **The bits of a rounded number**, before the last carry. -/
theorem halfEven_bounds (format : Format) (pos : 0 < x) :
    halfEven (x / 2 ^ unit format x) ≤ 2 ^ format.mantissaBits ∧
      (2 ^ format.mantissaBitsWithoutImplicit ≤ halfEven (x / 2 ^ unit format x) ∨
        unit format x = format.minExponent) := by
  have counted : unit format x =
      max (Int.log 2 x + 1 - (1 + format.mantissaBitsWithoutImplicit : Nat)) format.minExponent :=
    rfl
  constructor
  · have most : x / 2 ^ unit format x ≤ (2 ^ format.mantissaBits : Nat) := by
      rw [div_le_iff₀ (two_zpow_pos _), cast_two_pow, ← two_zpow_add]
      have high : x < 2 ^ (Int.log 2 x + 1) := Int.lt_zpow_succ_log_self Nat.one_lt_two x
      refine high.le.trans (two_zpow_le ?_)
      unfold Format.mantissaBits
      omega
    exact (halfEven_mono most).trans (halfEven_natCast _).le
  · refine or_iff_not_imp_right.2 fun more => ?_
    have least : ((2 ^ format.mantissaBitsWithoutImplicit : Nat) : Rat) ≤
        x / 2 ^ unit format x := by
      rw [le_div_iff₀ (two_zpow_pos _), cast_two_pow, ← two_zpow_add]
      have low : 2 ^ Int.log 2 x ≤ x := Int.zpow_log_le_self Nat.one_lt_two pos
      refine (two_zpow_le ?_).trans low
      omega
    exact (halfEven_natCast _).ge.trans (halfEven_mono least)

/-- **Rounding gives the nearest number**, if the bits that are rounded are not
cut off before the unit. -/
theorem exact_roundWithAccuracy (s : Sign) {m : Nat} {e : Int} {accuracy : Accuracy}
    (marks : Marks (.ofMantissaAndAccuracy m accuracy) (x / 2 ^ e)) (pos : 0 < m)
    (fine : e ≤ unit format x) :
    Canonical format (.roundWithAccuracy format s m e accuracy) ∧
      exact (.roundWithAccuracy format s m e accuracy) = signed s (magnitude format x) := by
  have mantissa : (ExtendedMantissa.ofMantissaAndAccuracy m accuracy).mantissa = m := by
    cases accuracy with
    | exact => rfl
    | inexact o => cases o <;> rfl
  have bounds := marks.bounds
  rw [mantissa] at bounds
  have positive : 0 < x := by
    have above : (0 : Rat) < x / 2 ^ e := (Nat.cast_pos.2 pos).trans_le bounds.1
    have product := mul_pos above (two_zpow_pos e)
    rwa [div_mul_cancel₀ _ (two_zpow_pos e).ne'] at product
  have target : unit format x = _ := unit_eq pos bounds.1 bounds.2
  obtain ⟨k, far⟩ := Int.le.dest fine
  have first : shiftToTargetExponent format m e accuracy =
      (ExtendedMantissa.ofMantissaAndAccuracy m accuracy >>> k, unit format x) := by
    unfold shiftToTargetExponent shiftToExponent
    dsimp only
    rw [← target, ← far, add_sub_cancel_left, Int.toNat_natCast]
  have rest : x / 2 ^ e / 2 ^ k = x / 2 ^ unit format x := by
    rw [← far, two_zpow_add, zpow_natCast, div_div]
  have rounded := (marks.shiftRight k).roundedMantissa_eq
  rw [rest] at rounded
  obtain ⟨most, long⟩ := halfEven_bounds format positive
  obtain ⟨n, f, carried, same, fits⟩ := exists_carried most (minExponent_le_unit _ _) long
  unfold UnpackedFloat.roundWithAccuracy
  rw [first]
  dsimp only
  rw [rounded, carried]
  dsimp only
  have number : (n : Rat) * 2 ^ f = magnitude format x := same
  by_cases none : n = 0
  · rw [dif_pos none]
    refine ⟨trivial, ?_⟩
    rw [← number, none, Nat.cast_zero, zero_mul]
    cases s with
    | positive => rfl
    | negative => exact neg_zero.symm
  · rw [dif_neg none]
    exact ⟨fits, (exact_finite ..).trans (congrArg (signed s) number)⟩

/-- Bits that are moved up mean the same. -/
theorem decreaseExponent_eq (m : Nat) (e target : Int) :
    ((decreaseExponent m e target).1 : Rat) * 2 ^ (decreaseExponent m e target).2 = m * 2 ^ e := by
  unfold decreaseExponent
  dsimp only
  rw [Nat.shiftLeft_eq, Nat.cast_mul, Nat.cast_pow, Nat.cast_ofNat, ← zpow_natCast, mul_assoc,
    ← two_zpow_add, add_sub_cancel]

/-- **A number is rounded to the nearest one.** -/
theorem exact_round (format : Format) (s : Sign) {m : Nat} (pos : 0 < m) (e : Int) :
    Canonical format (.round format s m e) ∧
      exact (.round format s m e) = signed s (magnitude format (m * 2 ^ e)) := by
  have target : unit format (m * 2 ^ e) = _ := unit_number pos e
  have same := decreaseExponent_eq m e (format.targetExponent (totalExponent m e))
  unfold UnpackedFloat.round
  dsimp only
  refine exact_roundWithAccuracy s ?_ ?_ ?_
  · rw [← same, mul_div_cancel_right₀ _ (two_zpow_pos _).ne']
    exact marks_exact _
  · unfold decreaseExponent
    dsimp only
    rw [Nat.shiftLeft_eq]
    exact Nat.mul_pos pos (Nat.two_pow_pos _)
  · rw [target]
    unfold decreaseExponent
    dsimp only
    omega

/-- **A whole number of units is rounded to the nearest number.** -/
theorem exact_normalize (format : Format) (n e : Int) (s : Sign) :
    Canonical format (.normalize format n e s) ∧
      exact (.normalize format n e s) = nearest format (n * 2 ^ e) := by
  unfold UnpackedFloat.normalize
  obtain neg | rfl | pos := lt_trichotomy n 0
  · rw [Int.compare_eq_lt.2 neg]
    obtain ⟨canonical, value⟩ := exact_round format .negative (m := (-n).toNat) (by omega) e
    have count : (((-n).toNat : Nat) : Rat) = -n := by
      rw [← Int.cast_natCast, Int.toNat_of_nonneg (by omega), Int.cast_neg]
    refine ⟨canonical, value.trans ?_⟩
    have below : (n : Rat) * 2 ^ e < 0 :=
      mul_neg_of_neg_of_pos (Int.cast_lt_zero.2 neg) (two_zpow_pos e)
    rw [count, neg_mul, nearest, if_neg below.not_ge]
    rfl
  · rw [Int.cast_zero, zero_mul, nearest_zero]
    exact ⟨trivial, rfl⟩
  · rw [Int.compare_eq_gt.2 pos]
    obtain ⟨canonical, value⟩ := exact_round format .positive (m := n.toNat) (by omega) e
    have count : ((n.toNat : Nat) : Rat) = n := by
      rw [← Int.cast_natCast, Int.toNat_of_nonneg pos.le]
    refine ⟨canonical, value.trans ?_⟩
    rw [count, nearest_of_nonneg (mul_nonneg (Int.cast_nonneg pos.le) (two_zpow_pos e).le)]
    rfl

end Value

end Projector
