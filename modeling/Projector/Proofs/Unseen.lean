import Projector.Image.Resize
import Projector.Proofs.Naught

/-!
# What cannot be seen

A picture whose pixels all have an opacity of zero cannot be seen, whatever
colours they have. Laid over another picture it leaves that picture as it
was. It stays unseen when it is stretched, and this is where care is needed:
a stretched pixel is a weighted sum, and where the weights of a cell add up
to zero they are no numbers after they were divided by their sum.

So the opacity of a stretched pixel is zero, of either sign, or it is no
number, and every operation that stretching is made of keeps this. Both are made
a byte of zero.
-/

namespace Projector

/-! ## Intensities -/

namespace Float32.Naught

variable {x : Float32}

theorem toUInt8_eq (h : Naught x) : x.toUInt8 = 0 := by
  show x.toModel.unpack.toUInt8 = 0
  obtain ⟨s, e⟩ | e := Value.Naught.eq_zero_or h
  · rw [e]
    rfl
  · rw [e]
    rfl

variable {p : Float32} {m : Nat} {e : Int} {pos : 0 < m}

/-- It does not reach a positive number. -/
theorem not_le (h : Naught x) (hp : p.toModel.unpack = .finite .positive m e pos) : ¬ p ≤ x := by
  have above := Value.Naught.compare_positive h (e := e) pos
  rw [← hp] at above
  show ¬ decide (p.toModel ≤ x.toModel) = true
  rw [decide_eq_true_iff]
  show ¬ (p.toModel.unpack.compare x.toModel.unpack).any Ordering.isLE = true
  obtain above | above := above <;> rw [above] <;> decide

/-- It is within any range from zero to a positive number. -/
theorem clamp_eq (h : Naught x) (hp : p.toModel.unpack = .finite .positive m e pos) :
    Scalar.clamp x 0 p = x := by
  have below : ¬ x < 0 := by
    rw [lt_iff_compare, show (0 : Float32).toModel.unpack = .zero .positive by rfl]
    obtain zero | zero := Value.Naught.compare_zero h <;> rw [zero] <;> decide
  have above : ¬ p < x := by
    rw [lt_iff_compare, hp]
    obtain above | above := Value.Naught.compare_positive h (e := e) pos <;> rw [above] <;> decide
  exact (if_neg below).trans (if_neg above)

end Float32.Naught

namespace Intensity

/-- **What is not seen is a byte of zero.** -/
theorem byte_eq_zero {x : Float32} (h : Float32.Naught x) : byte x = 0 := by
  have zero : (0 : UInt8).toFloat32 = 0 := by decide +kernel
  unfold byte
  rw [h.clamp_eq (by rfl)]
  dsimp only
  rw [h.toUInt8_eq, zero, Float32.sub_zero, if_neg (h.not_le (by rfl))]

/-- **Whether an intensity cannot be seen.** -/
def Unseen (p : Intensity) : Prop := Float32.Naught p.alpha

theorem unseen_zero : zero.Unseen := Float32.naught_zero

theorem unseen_ofPixel {p : Pixel} (h : p.alpha = 0) : (ofPixel p).Unseen := by
  show Value.Naught p.alpha.toFloat32.toModel.unpack
  rw [h]
  decide +kernel

theorem Unseen.addScaled {sum p : Intensity} (hsum : sum.Unseen) (hp : p.Unseen) (w : Float32) :
    (sum.addScaled p w).Unseen := Float32.Naught.add hsum (Float32.Naught.mul hp w)

theorem Unseen.pixel_alpha {p : Intensity} (h : p.Unseen) : p.pixel.alpha = 0 := byte_eq_zero h

end Intensity

/-! ## Pictures -/

namespace Resize

/-- **A sum of cells that are not seen** is not seen, whatever they weigh. -/
theorem unseen_weightedSum {cell : Nat → Intensity} (h : ∀ j, (cell j).Unseen) (first : Nat)
    (ws : List Float32) : (weightedSum cell first ws).Unseen := by
  have sum (s : Intensity × Nat) (hs : s.1.Unseen) :
      (ws.foldl (fun p w => (p.1.addScaled (cell p.2) w, p.2 + 1)) s).1.Unseen := by
    induction ws generalizing s with
    | nil => exact hs
    | cons w ws ih => exact ih _ (hs.addScaled (h s.2) w)
  exact sum (.zero, first) Intensity.unseen_zero

variable {r : Raster Intensity}

theorem unseen_rows (h : ∀ x y, (r.getD x y .zero).Unseen) (height x y : Nat) :
    ((rows r height).getD x y .zero).Unseen := by
  unfold rows Raster.getD
  rw [Raster.get?_ofFn]
  split
  · exact unseen_weightedSum (fun j => h x j) _ _
  · exact Intensity.unseen_zero

theorem unseen_columns (h : ∀ x y, (r.getD x y .zero).Unseen) (width x y : Nat) :
    ((columns r width).getD x y .zero).Unseen := by
  unfold columns Raster.getD
  rw [Raster.get?_ofFn]
  split
  · exact unseen_weightedSum (fun j => h j y) _ _
  · exact Intensity.unseen_zero

end Resize

namespace Image

/-- **Whether nothing can be seen of a picture.** -/
def Unseen (image : Image) : Prop := ∀ x y p, image.get? x y = some p → p.alpha = 0

theorem unseen_ofFn (width height : Nat) : Unseen (.ofFn width height fun _ _ => .transparent) := by
  intro x y p hp
  rw [Raster.get?_ofFn] at hp
  split at hp
  · cases hp
    rfl
  · cases hp

/-- **An unseen picture stays unseen** when it is stretched. -/
theorem Unseen.resize {image : Image} (h : image.Unseen) (width height : Nat) :
    (image.resize width height).Unseen := by
  unfold Image.resize
  split
  · exact unseen_ofFn width height
  have cells (x y : Nat) : ((image.map Intensity.ofPixel).getD x y .zero).Unseen := by
    unfold Raster.getD
    rw [Raster.get?_map]
    cases found : image.get? x y with
    | none => exact Intensity.unseen_zero
    | some p => exact Intensity.unseen_ofPixel (h x y p found)
  have stretched := Resize.unseen_columns (Resize.unseen_rows cells height) width
  intro x y p hp
  rw [Raster.get?_map, Option.map_eq_some_iff] at hp
  obtain ⟨i, hi, rfl⟩ := hp
  have unseen := stretched x y
  unfold Raster.getD at unseen
  rw [hi] at unseen
  exact unseen.pixel_alpha

/-- **An unseen picture leaves what is below it.** -/
theorem Unseen.overlay_eq {upper : Image} (h : upper.Unseen) (lower : Image) (x y : Int) :
    lower.overlay upper x y = lower := by
  unfold overlay
  refine (Raster.ofFn_congr fun px py _ _ => ?_).trans (Raster.ofFn_getD lower .transparent)
  dsimp only
  split
  · next p found =>
    unfold atInt? at found
    split at found
    · exact Pixel.blendOver_of_alpha_eq_zero _ (h _ _ _ found)
    · cases found
  · rfl

end Image

end Projector
