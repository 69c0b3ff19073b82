import Projector.Geometry.Letterbox

/-!
# Comparing coordinates

Coordinates are compared to find out whether something has moved, and a
coordinate may be no number. Such a coordinate is equal to nothing, itself
included, and nothing is smaller or larger than it. Equality of coordinates
is symmetric and transitive all the same, and it is reflexive on numbers.

Two facts follow that the layout depends on. What is found to be smaller or
larger is a number, so the visible part of a picture has four numbers for
its coordinates, whatever went into it. And of two rectangles that are
found equal, each stands for the other.
-/

namespace Projector

open Float.Model (Format UnpackedFloat)
open Float.Model.UnpackedFloat (Sign packComponents unpackExponent unpackMantissa)

/-! ## Values -/

namespace Value

/-- Signs are compared as they are ordered. -/
theorem compare_sign_eq_iff (s t : Sign) : compare s t = .eq ↔ s = t := by
  cases s <;> cases t <;> simp [compare]

/-- The same number is found by its exponent and its mantissa. -/
theorem compare_then_eq_iff {e f : Int} {m n : Nat} :
    (compare e f).then (compare m n) = .eq ↔ e = f ∧ m = n := by
  rw [Ordering.then_eq_eq, Std.compare_eq_iff_eq, Std.compare_eq_iff_eq]

/-- **What is found equal**: the same number twice, or two zeros. -/
theorem compare_eq_eq_iff (a b : UnpackedFloat) :
    a.compare b = some .eq ↔
      (a = b ∧ a.isNaN = false) ∨ ∃ s t, a = .zero s ∧ b = .zero t := by
  constructor
  · intro h
    cases a with
    | notANumber => cases h
    | infinity s =>
      cases b with
      | infinity t =>
        have same := (compare_sign_eq_iff s t).1 (Option.some.inj h)
        exact .inl ⟨congrArg UnpackedFloat.infinity same, rfl⟩
      | _ => cases s <;> cases h
    | zero s =>
      cases b with
      | zero t => exact .inr ⟨s, t, rfl, rfl⟩
      | notANumber => cases h
      | infinity t => cases t <;> cases h
      | finite t => cases t <;> cases h
    | finite s m e =>
      cases b with
      | notANumber => cases s <;> cases h
      | infinity t => cases s <;> cases t <;> cases h
      | zero t => cases s <;> cases h
      | finite t n f =>
        cases s with
        | positive =>
          cases t with
          | positive =>
            obtain ⟨rfl, rfl⟩ := compare_then_eq_iff.1 (Option.some.inj h)
            exact .inl ⟨rfl, rfl⟩
          | negative => cases h
        | negative =>
          cases t with
          | positive => cases h
          | negative =>
            obtain ⟨rfl, rfl⟩ := compare_then_eq_iff.1
              (Ordering.swap_eq_eq.1 (Option.some.inj h))
            exact .inl ⟨rfl, rfl⟩
  · rintro (⟨rfl, number⟩ | ⟨s, t, rfl, rfl⟩)
    · cases a with
      | notANumber => cases number
      | infinity s => cases s <;> rfl
      | zero s => rfl
      | finite s m e =>
        have same : (compare e e).then (compare m m) = .eq := compare_then_eq_iff.2 ⟨rfl, rfl⟩
        cases s with
        | positive => exact congrArg some same
        | negative => exact congrArg (fun o => some (Ordering.swap o)) same
    · rfl

/-- What is smaller than something is a number, and so is what it is smaller
than. -/
theorem isNaN_of_compare_lt {a b : UnpackedFloat} (h : a.compare b = some .lt) :
    a.isNaN = false ∧ b.isNaN = false := by
  cases a <;> cases b <;> first | exact ⟨rfl, rfl⟩ | cases h

/-- What lies between two finite values is finite. -/
theorem isFinite_of_le {a b c : UnpackedFloat} (ha : a.isFinite = true)
    (hc : c.isFinite = true) (low : a.le b = true) (high : b.le c = true) : b.isFinite = true := by
  cases b with
  | zero | finite => rfl
  | notANumber => cases c <;> cases high
  | infinity s =>
    cases s with
    | positive =>
      cases c with
      | infinity | notANumber => cases hc
      | zero | finite => cases high
    | negative =>
      cases a with
      | infinity | notANumber => cases ha
      | zero | finite => cases low

theorem le_of_lt {a b : UnpackedFloat} (h : a.lt b = true) : a.le b = true := by
  unfold UnpackedFloat.lt at h
  unfold UnpackedFloat.le
  rw [eq_of_beq h]
  rfl

/-- One of two numbers is a number. -/
theorem isNaN_dite {p : Prop} [Decidable p] {x : p → UnpackedFloat} {y : ¬ p → UnpackedFloat}
    (hx : ∀ h, (x h).isNaN = false) (hy : ∀ h, (y h).isNaN = false) :
    (dite p x y).isNaN = false := by
  by_cases h : p
  · rw [dif_pos h]
    exact hx h
  · rw [dif_neg h]
    exact hy h

/-- Rounding makes a number of a number. -/
theorem isNaN_normalize (format : Format) (m e : Int) (s : Sign) :
    (UnpackedFloat.normalize format m e s).isNaN = false := by
  have rounded (s : Sign) (m : Nat) (e : Int) (accuracy : UnpackedFloat.Accuracy) :
      (UnpackedFloat.roundWithAccuracy format s m e accuracy).isNaN = false := by
    exact isNaN_dite (fun _ => rfl) fun _ => rfl
  unfold UnpackedFloat.normalize
  split
  · exact rounded ..
  · rfl
  · exact rounded ..

/-- **The distance from something to something larger is a number.** -/
theorem isNaN_sub_of_compare_lt (format : Format) {a b : UnpackedFloat}
    (h : a.compare b = some .lt) : (UnpackedFloat.sub format b a).isNaN = false := by
  cases a with
  | notANumber => cases h
  | infinity s =>
    cases b with
    | notANumber => cases s <;> cases h
    | infinity t =>
      -- the smaller one of two infinities is negative, the larger one is not
      cases s <;> cases t <;> first | rfl | cases h
    | zero t => rfl
    | finite t n f => rfl
  | zero s =>
    cases b with
    | notANumber => cases h
    | infinity t => rfl
    | zero t => cases h
    | finite t n f => rfl
  | finite s m e =>
    cases b with
    | notANumber => cases s <;> cases h
    | infinity t => rfl
    | zero t => rfl
    | finite t n f => exact isNaN_normalize ..

/-- A bit pattern stands for no number if its exponent is all ones, and its
mantissa is not all zeros. -/
theorem isNaN_unpack_eq_false {format : Format} {b : BitVec format.numBits}
    (h : unpackExponent b ≠ -1#_ ∨ unpackMantissa b = 0#_) :
    (UnpackedFloat.unpack format b).isNaN = false := by
  unfold UnpackedFloat.unpack
  dsimp only
  by_cases ones : unpackExponent b = -1#_
  · rw [if_pos ones, if_pos (h.resolve_left (not_not_intro ones))]
    rfl
  · rw [if_neg ones]
    by_cases small : unpackExponent b = 0#_
    · rw [if_pos small]
      exact isNaN_dite (fun _ => rfl) fun _ => rfl
    · rw [if_neg small]
      rfl

/-- The exponent of a packed number is all ones for an infinity only. -/
theorem unpackMantissa_pack_of_ones {format : Format} {s : Sign} {m : Nat} {e : Int} {pos : 0 < m}
    (ones : unpackExponent (UnpackedFloat.pack format (.finite s m e pos)) = -1#_) :
    unpackMantissa (UnpackedFloat.pack format (.finite s m e pos)) = 0#_ := by
  unfold UnpackedFloat.pack at ones ⊢
  dsimp only at ones ⊢
  split at ones
  · next overflows =>
    rw [if_pos overflows]
    exact UnpackedFloat.unpackMantissa_packComponents
  · next small =>
    -- neither a normal nor a subnormal number has such an exponent
    have few : 0 < 2 ^ format.exponentBits := Nat.two_pow_pos _
    split at ones
    · rw [UnpackedFloat.unpackExponent_packComponents, BitVec.neg_one_eq_allOnes,
        ← BitVec.toNat_inj, BitVec.toNat_ofNat, BitVec.toNat_allOnes,
        Nat.mod_eq_of_lt (by omega)] at ones
      omega
    · rw [UnpackedFloat.unpackExponent_packComponents, BitVec.neg_one_eq_allOnes,
        ← BitVec.toNat_inj, BitVec.toNat_ofNat, BitVec.toNat_allOnes] at ones
      have two : 2 ^ 1 ≤ 2 ^ format.exponentBits := Nat.pow_le_pow_right (by decide) format.he
      rw [Nat.zero_mod] at ones
      omega

/-- **A number that is packed is unpacked as a number.** -/
theorem isNaN_unpack_pack {format : Format} {a : UnpackedFloat} (h : a.isNaN = false) :
    (UnpackedFloat.unpack format (UnpackedFloat.pack format a)).isNaN = false := by
  refine isNaN_unpack_eq_false ?_
  cases a with
  | notANumber => cases h
  | infinity s => exact .inr UnpackedFloat.unpackMantissa_packComponents
  | zero s => exact .inr UnpackedFloat.unpackMantissa_packComponents
  | finite s m e pos =>
    by_cases ones : unpackExponent (UnpackedFloat.pack format (.finite s m e pos)) = -1#_
    · exact .inr (unpackMantissa_pack_of_ones ones)
    · exact .inl ones

end Value

/-! ## Single precision -/

namespace Float32

theorem beq_iff_compare (a b : Float32) :
    (a == b) = true ↔ a.toModel.unpack.compare b.toModel.unpack = some .eq := by
  show (a.toModel.unpack.compare b.toModel.unpack == some .eq) = true ↔ _
  exact beq_iff_eq

theorem lt_iff_compare (a b : Float32) :
    a < b ↔ a.toModel.unpack.compare b.toModel.unpack = some .lt := by
  show decide (a.toModel < b.toModel) = true ↔ _
  rw [decide_eq_true_iff]
  exact beq_iff_eq

/-- **Equality is symmetric and transitive**, also where a coordinate is no
number. -/
instance instPartialEquivBEq : PartialEquivBEq Float32 where
  symm {a b} h := by
    rw [beq_iff_compare, Value.compare_eq_eq_iff] at h ⊢
    obtain ⟨h, number⟩ | ⟨s, t, ha, hb⟩ := h
    · exact .inl ⟨h.symm, h ▸ number⟩
    · exact .inr ⟨t, s, hb, ha⟩
  trans {a b c} h h' := by
    rw [beq_iff_compare, Value.compare_eq_eq_iff] at h h' ⊢
    obtain ⟨h, number⟩ | ⟨s, t, ha, hb⟩ := h
    · rw [h]
      exact h'
    · obtain ⟨h', -⟩ | ⟨s', t', -, hc⟩ := h'
      · exact .inr ⟨s, t, ha, h' ▸ hb⟩
      · exact .inr ⟨s, t', ha, hc⟩

/-- **A coordinate is equal to itself if it is a number.** -/
theorem beq_self_iff (a : Float32) : (a == a) = true ↔ a.isNaN = false := by
  rw [beq_iff_compare, Value.compare_eq_eq_iff]
  constructor
  · rintro (⟨-, number⟩ | ⟨s, t, ha, -⟩)
    · exact number
    · show a.toModel.unpack.isNaN = false
      rw [ha]
      rfl
  · exact fun number => .inl ⟨rfl, number⟩

/-- What is smaller than something is equal to itself. -/
theorem beq_self_of_lt {a b : Float32} (h : a < b) : (a == a) = true :=
  (beq_self_iff a).2 (Value.isNaN_of_compare_lt ((lt_iff_compare a b).1 h)).1

/-- **A length between two coordinates in order is equal to itself.** -/
theorem beq_self_sub_of_lt {a b : Float32} (h : a < b) : (b - a == b - a) = true := by
  rw [beq_self_iff]
  exact Value.isNaN_unpack_pack
    (Value.isNaN_sub_of_compare_lt .binary32 ((lt_iff_compare a b).1 h))

/-- **Two coordinates that no comparison tells apart**: they are equal, or
neither is a number. -/
def Alike (a b : Float32) : Prop := (a == b) = true ∨ a.isNaN = true ∧ b.isNaN = true

instance (a b : Float32) : Decidable (Alike a b) := inferInstanceAs (Decidable (_ ∨ _))

theorem Alike.refl (a : Float32) : Alike a a := by
  cases number : a.isNaN with
  | false => exact .inl ((beq_self_iff a).2 number)
  | true => exact .inr ⟨number, number⟩

end Float32

/-! ## Rectangles -/

namespace Rect

theorem beq_iff {S : Type} [Scalar S] (a b : Rect S) :
    (a == b) = true ↔
      (a.x == b.x) = true ∧ (a.y == b.y) = true ∧ (a.width == b.width) = true ∧
        (a.height == b.height) = true := by
  show (a.x == b.x && a.y == b.y && a.width == b.width && a.height == b.height) = true ↔ _
  rw [Bool.and_eq_true, Bool.and_eq_true, Bool.and_eq_true, and_assoc, and_assoc]

instance instPartialEquivBEq : PartialEquivBEq (Rect Float32) where
  symm {a b} h := by
    rw [beq_iff] at h ⊢
    obtain ⟨x, y, width, height⟩ := h
    exact ⟨BEq.symm x, BEq.symm y, BEq.symm width, BEq.symm height⟩
  trans {a b c} h h' := by
    rw [beq_iff] at h h' ⊢
    obtain ⟨x, y, width, height⟩ := h
    obtain ⟨x', y', width', height'⟩ := h'
    exact ⟨BEq.trans x x', BEq.trans y y', BEq.trans width width', BEq.trans height height'⟩

/-- **Two rectangles that no comparison of coordinates tells apart.** -/
structure Alike (a b : Rect Float32) : Prop where
  /-- Their left edges are alike, -/
  x : Float32.Alike a.x b.x
  /-- their upper edges, -/
  y : Float32.Alike a.y b.y
  /-- their widths -/
  width : Float32.Alike a.width b.width
  /-- and their heights. -/
  height : Float32.Alike a.height b.height

theorem Alike.refl (r : Rect Float32) : r.Alike r := ⟨.refl _, .refl _, .refl _, .refl _⟩

theorem Alike.of_beq {a b : Rect Float32} (h : (a == b) = true) : a.Alike b := by
  obtain ⟨x, y, width, height⟩ := (beq_iff a b).1 h
  exact ⟨.inl x, .inl y, .inl width, .inl height⟩

theorem alike_iff (a b : Rect Float32) :
    a.Alike b ↔ Float32.Alike a.x b.x ∧ Float32.Alike a.y b.y ∧ Float32.Alike a.width b.width ∧
      Float32.Alike a.height b.height :=
  ⟨fun ⟨x, y, width, height⟩ => ⟨x, y, width, height⟩,
    fun ⟨x, y, width, height⟩ => ⟨x, y, width, height⟩⟩

instance (a b : Rect Float32) : Decidable (a.Alike b) := decidable_of_iff' _ (alike_iff a b)

/-- **What two rectangles have in common is equal to itself**, though a
coordinate of either may be no number. -/
theorem beq_self_of_intersection {a b c : Rect Float32} (h : a.intersection b = some c) :
    (c == c) = true := by
  unfold intersection at h
  dsimp only at h
  split at h
  · next area =>
    obtain ⟨across, down⟩ := area
    cases h
    exact (beq_iff _ _).2 ⟨Float32.beq_self_of_lt across, Float32.beq_self_of_lt down,
      Float32.beq_self_sub_of_lt across, Float32.beq_self_sub_of_lt down⟩
  · cases h

theorem beq_self_zero : ((zero : Rect Float32) == zero) = true := by decide +kernel

end Rect

/-- **The visible part of a picture is equal to itself.** -/
theorem Letterbox.beq_self_screen (bounds video : Rect Float32) :
    ((Letterbox.of bounds video).screen == (Letterbox.of bounds video).screen) = true := by
  show ((bounds.intersection video).getD Rect.zero == (bounds.intersection video).getD Rect.zero) =
    true
  cases common : bounds.intersection video with
  | none => exact Rect.beq_self_zero
  | some screen => exact Rect.beq_self_of_intersection common

end Projector
