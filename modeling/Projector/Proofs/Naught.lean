import Mathlib.Algebra.Group.Nat.Defs
import Projector.Proofs.Coordinates

/-!
# Zero, or no number

Where two lengths that should be equal are subtracted, or a share of nothing is
taken, the result is zero, of either sign. If something was not finite it is no
number. What follows is the same in both cases as far as comparisons go: such a
value is not above zero, and added to a number it makes nothing that is smaller.

So it is one predicate, `Naught`, and it is kept by sums, and by products and
quotients with whatever stands on the other side.

To say that a number is left as it is when nothing is added, one has to know
that packing a value restores the bits that it was unpacked from.
-/

namespace Projector

open Float.Model (Format UnpackedFloat)
open Float.Model.UnpackedFloat (Sign packComponents unpackExponent unpackMantissa unpackSign)

/-! ## Values -/

namespace Value

variable {format : Format} {a b : UnpackedFloat}

/-- **Zero, or no number.** -/
def Naught : UnpackedFloat → Prop
  | .zero _ => True
  | .notANumber => True
  | _ => False

instance : DecidablePred Naught
  | .zero _ => .isTrue trivial
  | .notANumber => .isTrue trivial
  | .infinity _ => .isFalse id
  | .finite .. => .isFalse id

/-- Nothing is taken away. -/
theorem sub_zero (format : Format) (a : UnpackedFloat) :
    UnpackedFloat.sub format a (.zero .positive) = a := by
  cases a with
  | zero s => cases s <;> rfl
  | notANumber | infinity | finite => rfl

/-- Nothing is added to what is above zero. -/
theorem zero_add (format : Format) (s : Sign)
    (above : UnpackedFloat.compare (.zero .positive) b = some .lt) :
    UnpackedFloat.add format (.zero s) b = b := by
  cases b with
  | zero | notANumber => cases above
  | infinity | finite => rfl

/-- Nothing is left of a finite number that is taken from itself. -/
theorem sub_self_finite (format : Format) (s : Sign) (m : Nat) (e : Int) (pos : 0 < m) :
    UnpackedFloat.sub format (.finite s m e pos) (.finite s m e pos) = .zero .positive := by
  have same : ∀ x : Int, UnpackedFloat.normalize format (x - x) (min e e) .positive =
      .zero .positive := fun x => by rw [Int.sub_self]; rfl
  exact same _

/-- Nothing is left of a value that is taken from itself, or no number is. -/
theorem naught_sub_self (format : Format) (a : UnpackedFloat) :
    Naught (UnpackedFloat.sub format a a) := by
  cases a with
  | notANumber => trivial
  | infinity s => cases s <;> trivial
  | zero s => cases s <;> trivial
  | finite s m e pos =>
    rw [sub_self_finite]
    trivial

namespace Naught

theorem eq_zero_or (h : Naught a) : (∃ s, a = .zero s) ∨ a = .notANumber := by
  cases a with
  | zero s => exact .inl ⟨s, rfl⟩
  | notANumber => exact .inr rfl
  | infinity | finite => cases h

/-- A share of nothing is nothing, unless the weight is not finite. -/
theorem mul (h : Naught a) (b : UnpackedFloat) : Naught (.mul format a b) := by
  obtain ⟨s, rfl⟩ | rfl := h.eq_zero_or
  · cases b <;> trivial
  · trivial

theorem div (h : Naught a) (b : UnpackedFloat) : Naught (.div format a b) := by
  obtain ⟨s, rfl⟩ | rfl := h.eq_zero_or
  · cases b <;> trivial
  · trivial

theorem add (ha : Naught a) (hb : Naught b) : Naught (.add format a b) := by
  obtain ⟨s, rfl⟩ | rfl := ha.eq_zero_or
  · obtain ⟨t, rfl⟩ | rfl := hb.eq_zero_or
    · cases s <;> cases t <;> trivial
    · trivial
  · trivial

theorem packed (h : Naught a) : Naught (Float32.Model.pack a).unpack := by
  obtain ⟨s, rfl⟩ | rfl := h.eq_zero_or
  · cases s <;> decide +kernel
  · decide +kernel

/-- A positive number is above, or it cannot be compared. -/
theorem compare_positive (h : Naught a) {m : Nat} {e : Int} (pos : 0 < m) :
    (UnpackedFloat.finite .positive m e pos).compare a = some .gt ∨
      (UnpackedFloat.finite .positive m e pos).compare a = none := by
  obtain ⟨s, rfl⟩ | rfl := h.eq_zero_or
  · exact .inl rfl
  · exact .inr rfl

/-- It is zero, or it cannot be compared with zero. -/
theorem compare_zero (h : Naught a) :
    a.compare (.zero .positive) = some .eq ∨ a.compare (.zero .positive) = none := by
  obtain ⟨s, rfl⟩ | rfl := h.eq_zero_or
  · exact .inl rfl
  · exact .inr rfl

end Naught

/-! ### Packing -/

theorem ofBitVec_toBitVec (b : BitVec 1) : (Sign.ofBitVec b).toBitVec = b := by
  have all : ∀ b : BitVec 1, (Sign.ofBitVec b).toBitVec = b := by decide
  exact all b

/-- **A pattern is put together** of its sign, its exponent and its mantissa. -/
theorem packComponents_unpack (b : BitVec format.numBits) :
    packComponents format (.ofBitVec (unpackSign b)) (unpackExponent b) (unpackMantissa b) = b := by
  have hm := format.hm
  have he := format.he
  refine BitVec.eq_of_getLsbD_eq fun i (hi : i < 1 + format.exponentBits + _) => ?_
  unfold packComponents unpackSign unpackExponent unpackMantissa
  rw [ofBitVec_toBitVec]
  simp only [BitVec.getLsbD_append, BitVec.getLsbD_cast, BitVec.getLsbD_extractLsb]
  by_cases low : i < format.mantissaBitsWithoutImplicit
  · rw [if_pos low, decide_eq_true (by omega), Bool.true_and, Nat.zero_add]
  rw [if_neg low]
  by_cases middle : i - format.mantissaBitsWithoutImplicit < format.exponentBits
  · rw [if_pos middle, decide_eq_true (by omega), Bool.true_and,
      Nat.add_sub_cancel' (Nat.le_of_not_lt low)]
  · rw [if_neg middle, decide_eq_true (by omega), Bool.true_and, Nat.add_assoc,
      Nat.add_sub_cancel' (Nat.le_of_not_lt middle), Nat.add_sub_cancel' (Nat.le_of_not_lt low)]

/-- The leading one is put before a mantissa. -/
theorem toNat_leading {n : Nat} (m : BitVec n) : (1#1 ++ m).toNat = 2 ^ n + m.toNat := by
  rw [BitVec.toNat_append, ← Nat.shiftLeft_add_eq_or_of_lt m.isLt, Nat.shiftLeft_eq]
  exact congrArg (· + m.toNat) (Nat.one_mul _)

/-- A number below the least normal one is packed with no exponent. -/
theorem pack_subnormal {s : Sign} {m : BitVec format.mantissaBitsWithoutImplicit} {e : Int}
    (wide : 1 < format.exponentBits) (pos : 0 < m.toNat)
    (least : e + format.exponentBias + format.mantissaBitsWithoutImplicit = 1) :
    UnpackedFloat.pack format (.finite s m.toNat e pos) = packComponents format s 0#_ m := by
  have few : 2 ^ 2 ≤ 2 ^ format.exponentBits := Nat.pow_le_pow_right (by decide) wide
  have short : m.toNat.log2 < format.mantissaBitsWithoutImplicit :=
    (Nat.log2_lt (Nat.ne_of_gt pos)).2 m.isLt
  unfold UnpackedFloat.pack
  dsimp only
  rw [least, if_neg (by simp only [Int.toNat_one]; omega),
    if_neg (by unfold Format.mantissaBits; omega), BitVec.ofNat_toNat, BitVec.setWidth_eq]

/-- A normal number is packed without its leading one. -/
theorem pack_normal {s : Sign} {m : BitVec format.mantissaBitsWithoutImplicit}
    {exponent : BitVec format.exponentBits} {e : Int} (finite : exponent ≠ -1#_)
    (pos : 0 < (1#1 ++ m).toNat)
    (biased : e + format.exponentBias + format.mantissaBitsWithoutImplicit = exponent.toNat) :
    UnpackedFloat.pack format (.finite s (1#1 ++ m).toNat e pos) =
      packComponents format s exponent m := by
  have below : exponent.toNat + 1 < 2 ^ format.exponentBits := by
    have bound := exponent.isLt
    have other : exponent.toNat ≠ 2 ^ format.exponentBits - 1 := fun h => finite <| by
      rw [BitVec.neg_one_eq_allOnes, ← BitVec.toNat_inj, BitVec.toNat_allOnes, h]
    omega
  have long : (1#1 ++ m).toNat.log2 + 1 = format.mantissaBits := by
    have bound := m.isLt
    have twice : 2 ^ (1 + format.mantissaBitsWithoutImplicit) =
        2 * 2 ^ format.mantissaBitsWithoutImplicit := by rw [Nat.pow_add, Nat.pow_one]
    have upper := (Nat.log2_lt (Nat.ne_of_gt pos)).2
      (show (1#1 ++ m).toNat < 2 ^ (1 + format.mantissaBitsWithoutImplicit) by
        rw [toNat_leading]; omega)
    have lower := (Nat.le_log2 (Nat.ne_of_gt pos)).2
      (show 2 ^ format.mantissaBitsWithoutImplicit ≤ (1#1 ++ m).toNat by
        rw [toNat_leading]; omega)
    unfold Format.mantissaBits
    omega
  unfold UnpackedFloat.pack
  dsimp only
  rw [biased, Int.toNat_natCast, if_neg (Nat.not_le.2 below), if_pos long, BitVec.ofNat_toNat,
    BitVec.setWidth_eq]
  refine congrArg (packComponents format s exponent) (BitVec.eq_of_toNat_eq ?_)
  rw [BitVec.toNat_ofNat, toNat_leading, Nat.add_mod_left, Nat.mod_eq_of_lt m.isLt]

/-- **Packing restores the pattern** that a value was unpacked from. -/
theorem pack_unpack {b : BitVec format.numBits} (valid : format.Valid b)
    (wide : 1 < format.exponentBits) :
    UnpackedFloat.pack format (UnpackedFloat.unpack format b) = b := by
  have whole := packComponents_unpack b
  unfold UnpackedFloat.unpack
  dsimp only
  by_cases ones : unpackExponent b = -1#_
  · rw [if_pos ones]
    by_cases none : unpackMantissa b = 0#_
    · rw [if_pos none]
      rw [ones, none] at whole
      exact whole
    · rw [if_neg none]
      exact (valid.eq_packedNaN ones none).symm
  rw [if_neg ones]
  by_cases small : unpackExponent b = 0#_
  · rw [if_pos small]
    by_cases none : unpackMantissa b = 0#_
    · rw [dif_pos none]
      rw [small, none] at whole
      exact whole
    · rw [dif_neg none]
      refine (pack_subnormal wide _ ?_).trans ?_
      · rw [small, BitVec.toNat_zero]
        omega
      · rw [small] at whole
        exact whole
  · rw [if_neg small]
    exact (pack_normal ones _ (by omega)).trans whole

end Value

/-! ## Single precision -/

namespace Float32

/-- A value is made of the pattern that it is unpacked from. -/
theorem ofModel_pack_unpack (x : Float32) : Float32.ofModel (.pack x.toModel.unpack) = x := by
  obtain ⟨⟨bits, valid⟩⟩ := x
  have same : UInt32.ofBitVec (UnpackedFloat.pack .binary32
      (UnpackedFloat.unpack .binary32 bits.toBitVec)) = bits :=
    congrArg UInt32.ofBitVec (Value.pack_unpack valid (by decide))
  exact congrArg Float32.ofModel ((Float32.Model.mk.injEq ..).mpr same)

theorem eq_of_unpack_eq {x y : Float32} (h : x.toModel.unpack = y.toModel.unpack) : x = y := by
  rw [← ofModel_pack_unpack x, h, ofModel_pack_unpack]

/-- Two coordinates that are found equal are one if they are above zero. -/
theorem eq_of_beq_of_pos {x y : Float32} (same : (x == y) = true) (above : 0 < y) : x = y := by
  rw [beq_iff_compare, Value.compare_eq_eq_iff] at same
  obtain ⟨same, -⟩ | ⟨s, t, -, zero⟩ := same
  · exact eq_of_unpack_eq same
  · rw [lt_iff_compare, zero] at above
    cases above

theorem lt_irrefl (x : Float32) : ¬ x < x := by
  intro less
  have same := (beq_iff_compare x x).1 (beq_self_of_lt less)
  rw [(lt_iff_compare x x).1 less] at same
  cases same

/-- Nothing is added to a length. -/
theorem add_of_zero {x y : Float32} {s : Sign} (zero : x.toModel.unpack = .zero s)
    (above : 0 < y) : x + y = y := by
  refine (congrArg (fun v => Float32.ofModel (.pack v)) ?_).trans (ofModel_pack_unpack y)
  rw [zero]
  exact Value.zero_add .binary32 s ((lt_iff_compare 0 y).1 above)

theorem zero_add {y : Float32} (above : 0 < y) : 0 + y = y :=
  add_of_zero (show (0 : Float32).toModel.unpack = .zero .positive by rfl) above

/-- Of zero and another coordinate zero is kept unless the other one is above. -/
theorem larger_zero_eq_iff {x : Float32} : Scalar.larger 0 x = 0 ↔ ¬ 0 < x := by
  have number : ¬ (0 : Float32).isNaN = true := by decide +kernel
  have larger : Scalar.larger 0 x = if 0 < x then x else 0 := if_neg number
  rw [larger]
  split
  · next above => exact ⟨fun same => absurd above (same ▸ lt_irrefl x), fun h => absurd above h⟩
  · next h => exact ⟨fun _ => h, fun _ => rfl⟩

/-- Of a length and another coordinate the length is kept unless the other one is
below. -/
theorem smaller_eq_iff {x y : Float32} (above : 0 < y) : Scalar.smaller y x = y ↔ ¬ x < y := by
  have number : y.isNaN = false := (Value.isNaN_of_compare_lt ((lt_iff_compare 0 y).1 above)).2
  have smaller : Scalar.smaller y x = if x < y then x else y := if_neg (Bool.eq_false_iff.1 number)
  rw [smaller]
  split
  · next below => exact ⟨fun same => absurd below (same ▸ lt_irrefl y), fun h => absurd below h⟩
  · next h => exact ⟨fun _ => h, fun _ => rfl⟩

/-- Nothing is left of a finite coordinate that is taken from itself. -/
theorem sub_self_le {x : Float32} (finite : x.isFinite = true) : x - x ≤ 0 := by
  have nothing : x - x = .ofModel (.pack (.zero .positive)) := by
    refine congrArg (fun v => Float32.ofModel (.pack v)) ?_
    have finite : x.toModel.unpack.isFinite = true := finite
    show UnpackedFloat.sub .binary32 x.toModel.unpack x.toModel.unpack = _
    cases h : x.toModel.unpack with
    | notANumber | infinity =>
      rw [h] at finite
      cases finite
    | zero s => cases s <;> rfl
    | finite s m e pos => exact Value.sub_self_finite .binary32 s m e pos
  rw [nothing]
  decide +kernel

theorem sub_zero (x : Float32) : x - 0 = x := by
  refine (congrArg (fun v => Float32.ofModel (.pack v)) ?_).trans (ofModel_pack_unpack x)
  exact Value.sub_zero .binary32 x.toModel.unpack

/-- **Zero, or no number**, in single precision. -/
def Naught (x : Float32) : Prop := Value.Naught x.toModel.unpack

theorem naught_zero : Naught 0 := by
  show Value.Naught (0 : Float32).toModel.unpack
  decide +kernel

theorem naught_sub_self (x : Float32) : Naught (x - x) := (Value.naught_sub_self _ _).packed

namespace Naught

variable {x y : Float32}

theorem mul (h : Naught x) (y : Float32) : Naught (x * y) := (Value.Naught.mul h _).packed

theorem div (h : Naught x) (y : Float32) : Naught (x / y) := (Value.Naught.div h _).packed

theorem add (hx : Naught x) (hy : Naught y) : Naught (x + y) := (Value.Naught.add hx hy).packed

/-- It is not above zero. -/
theorem not_pos (h : Naught x) : ¬ 0 < x := by
  rw [lt_iff_compare]
  obtain ⟨s, zero⟩ | none := Value.Naught.eq_zero_or h
  · rw [zero]
    exact nofun
  · rw [none]
    exact nofun

/-- **Added to a length, it makes nothing that is smaller.** -/
theorem not_add_lt (h : Naught x) (above : 0 < y) : ¬ x + y < y := by
  intro less
  obtain ⟨s, zero⟩ | none := Value.Naught.eq_zero_or h
  · rw [add_of_zero zero above] at less
    exact lt_irrefl y less
  · have sum : x + y = .ofModel (.pack .notANumber) := by
      show Float32.ofModel (.pack (.add .binary32 x.toModel.unpack y.toModel.unpack)) = _
      rw [none]
      rfl
    rw [sum, lt_iff_compare] at less
    have number := (Value.isNaN_of_compare_lt less).1
    have unpacked : (Float32.Model.pack .notANumber).unpack.isNaN = true := by decide +kernel
    exact Bool.noConfusion (number.symm.trans unpacked)

end Naught

end Float32

end Projector
