/-!
# Rasters

A raster is a rectangle of cells, kept row by row. It is read by column
and row, and made by saying what is in each cell. That is also how a
raster is changed: the new one says where each cell comes from, so what
an operation does to a cell is written in the operation, and `get?_ofFn`
reads it back.
-/

namespace Projector

/-- **A rectangle of cells.** -/
structure Raster (α : Type) where
  /-- Cells of a row. -/
  width : Nat
  /-- How many rows. -/
  height : Nat
  /-- The rows, one after the other. -/
  cells : Array α
  /-- There are as many cells as the rows have. -/
  size_cells : cells.size = width * height
  deriving DecidableEq

namespace Raster

variable {α β : Type}

/-- The cell in column `x` of row `y`, if there is one. -/
def get? (r : Raster α) (x y : Nat) : Option α :=
  if x < r.width ∧ y < r.height then r.cells[y * r.width + x]? else none

/-- The cell in column `x` of row `y`, or `other` outside. -/
def getD (r : Raster α) (x y : Nat) (other : α) : α := (r.get? x y).getD other

/-- The cell nearest to column `x` of row `y`: beyond the right or the
lower edge it is the one at the edge. A raster without cells has `other`. -/
def nearest (r : Raster α) (x y : Nat) (other : α) : α :=
  r.getD (min x (r.width - 1)) (min y (r.height - 1)) other

/-- **The raster with these cells.** -/
def ofFn (width height : Nat) (f : Nat → Nat → α) : Raster α where
  width := width
  height := height
  cells := Array.ofFn (n := width * height) fun i => f (i.val % width) (i.val / width)
  size_cells := Array.size_ofFn

/-- The raster with these cells, if every cell has a value. -/
def build {ε : Type} (width height : Nat) (f : Nat → Nat → Except ε α) : Except ε (Raster α) := do
  let cells ← Vector.ofFnM (n := width * height) fun i => f (i.val % width) (i.val / width)
  return ⟨width, height, cells.toArray, cells.size_toArray⟩

/-- The raster with every cell changed by a function. -/
def map (f : α → β) (r : Raster α) : Raster β where
  width := r.width
  height := r.height
  cells := r.cells.map f
  size_cells := by rw [Array.size_map, r.size_cells]

/-! ## What an operation puts into a cell -/

/-- A column and a row give a position. -/
theorem position_lt {w h x y : Nat} (hx : x < w) (hy : y < h) : y * w + x < w * h := by
  calc y * w + x < y * w + w := by omega
    _ = (y + 1) * w := by rw [Nat.succ_mul]
    _ ≤ h * w := Nat.mul_le_mul_right w hy
    _ = w * h := Nat.mul_comm h w

@[simp] theorem get?_ofFn (w h : Nat) (f : Nat → Nat → α) (x y : Nat) :
    (ofFn w h f).get? x y = if x < w ∧ y < h then some (f x y) else none := by
  unfold get? ofFn
  by_cases hxy : x < w ∧ y < h
  · obtain ⟨hx, hy⟩ := hxy
    have hw : 0 < w := by omega
    rw [if_pos ⟨hx, hy⟩, if_pos ⟨hx, hy⟩, Array.getElem?_ofFn, dif_pos (position_lt hx hy)]
    have hmod : (y * w + x) % w = x := by
      rw [Nat.add_comm, Nat.add_mul_mod_self_right, Nat.mod_eq_of_lt hx]
    have hdiv : (y * w + x) / w = y := by
      rw [Nat.add_comm, Nat.add_mul_div_right _ _ hw, Nat.div_eq_of_lt hx, Nat.zero_add]
    simp only [hmod, hdiv]
  · rw [if_neg hxy, if_neg hxy]

/-- **A raster is built** if every cell has a value. -/
theorem build_eq_ok {ε : Type} {w h : Nat} {f : Nat → Nat → Except ε α} {g : Nat → Nat → α}
    (hf : ∀ x y, x < w → y < h → f x y = .ok (g x y)) : build w h f = .ok (ofFn w h g) := by
  have cells : (fun i : Fin (w * h) => f (i.val % w) (i.val / w)) =
      fun i => pure (g (i.val % w) (i.val / w)) := by
    funext i
    have hw : 0 < w := Nat.pos_of_mul_pos_right (Nat.lt_of_le_of_lt (Nat.zero_le _) i.isLt)
    exact hf _ _ (Nat.mod_lt _ hw) (Nat.div_lt_of_lt_mul i.isLt)
  unfold build
  rw [cells, Vector.ofFnM_pure]
  rfl

/-- **Rasters are the same** if they have the same in every cell. -/
theorem ofFn_congr {w h : Nat} {f g : Nat → Nat → α}
    (hfg : ∀ x y, x < w → y < h → f x y = g x y) : ofFn w h f = ofFn w h g := by
  have cells : (fun i : Fin (w * h) => f (i.val % w) (i.val / w)) =
      fun i => g (i.val % w) (i.val / w) := by
    funext i
    have hw : 0 < w := Nat.pos_of_mul_pos_right (Nat.lt_of_le_of_lt (Nat.zero_le _) i.isLt)
    exact hfg _ _ (Nat.mod_lt _ hw) (Nat.div_lt_of_lt_mul i.isLt)
  unfold ofFn
  simp only [cells]

/-- A raster is made of its cells. -/
theorem ofFn_getD (r : Raster α) (other : α) :
    ofFn r.width r.height (fun x y => r.getD x y other) = r := by
  obtain ⟨width, height, cells, size⟩ := r
  unfold ofFn
  simp only [mk.injEq, true_and]
  refine Array.ext (by rw [Array.size_ofFn, size]) fun i hi hi' => ?_
  have hi : i < width * height := size ▸ hi'
  have across : i % width < width := Nat.mod_lt _ (Nat.pos_of_mul_pos_right (Nat.zero_lt_of_lt hi))
  have down : i / width < height := Nat.div_lt_of_lt_mul hi
  rw [Array.getElem_ofFn]
  simp only [getD, get?]
  rw [if_pos ⟨across, down⟩, Nat.mul_comm, Nat.div_add_mod, Array.getElem?_eq_getElem hi',
    Option.getD_some]

@[simp] theorem get?_map (f : α → β) (r : Raster α) (x y : Nat) :
    (r.map f).get? x y = (r.get? x y).map f := by
  unfold get? map
  dsimp only
  split
  · rw [Array.getElem?_map]
  · rfl

/-- Outside there is no cell. -/
theorem get?_eq_none {r : Raster α} {x y : Nat} (h : ¬ (x < r.width ∧ y < r.height)) :
    r.get? x y = none := if_neg h

/-- Inside there is one. -/
theorem get?_isSome {r : Raster α} {x y : Nat} (hx : x < r.width) (hy : y < r.height) :
    (r.get? x y).isSome := by
  have h : y * r.width + x < r.cells.size := by
    rw [r.size_cells]
    exact position_lt hx hy
  simp [get?, hx, hy, Array.getElem?_eq_getElem h]

end Raster

end Projector
