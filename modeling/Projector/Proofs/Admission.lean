import Mathlib.Algebra.Group.Nat.Defs
import Projector.Proofs.Frame

/-!
# Which planes become a frame

`VideoFrame.ofPlanes` stands between a decoder, which may be wrong about
anything, and the renderer, which believes what a frame says. Planes are
`Acceptable` for a picture if there are as many as the type has, every row
is as long as the picture is wide, and every row is there. Whoever hands
over acceptable planes should get a frame with their strides, and whoever
hands over others should be told that they are not a frame.

The planes are compared in machine words, which are too short in three
places. The tight row of a picture is computed in 32 bits, the bytes of all
rows of a plane in 64, and a stride is cut to 32 bits before it is compared.
These are the `Slips`. Nothing else is wrong: planes are judged as they
should be unless one of the three happens, and never if one does.
-/

namespace Projector

/-! ## Sizes without words -/

/-- What is made of a number of 32 bits. -/
theorem Checked.map_fit32 {α : Type} (f : Nat → α) (n : Nat) :
    f <$> fit32 n = if n < UInt32.size then .ok (f n) else .error .overflow := by
  unfold fit32
  split <;> rfl

namespace PixelType

/-- **The tight size of each plane**, however long a row is. -/
def tightSizes (type : PixelType) (width height : Nat) : List PlaneSize :=
  let chromaWidth := (width + 1) / 2
  let chromaHeight := (height + 1) / 2
  match type with
  | .empty => []
  | .i420 => [⟨width, height⟩, ⟨chromaWidth, chromaHeight⟩, ⟨chromaWidth, chromaHeight⟩]
  | .nv12 | .nv21 => [⟨width, height⟩, ⟨chromaWidth * 2, chromaHeight⟩]
  | .yuy2 | .uyvy => [⟨chromaWidth * 4, height⟩]
  | .rgba | .bgra => [⟨width * 4, height⟩]

theorem length_tightSizes (type : PixelType) (width height : Nat) :
    (type.tightSizes width height).length = type.layout.planeCount := by
  cases type <;> rfl

/-- **The sizes are the tight ones if every row is a word**, and otherwise
there is a fault. -/
theorem planeSizes_eq (type : PixelType) {width : Nat} (word : width < UInt32.size)
    (height : Nat) : type.planeSizes width height =
      if ∀ size ∈ type.tightSizes width height, size.rowBytes < UInt32.size then
        .ok (type.tightSizes width height)
      else .error .overflow := by
  have half : (width + 1) / 2 < UInt32.size := by omega
  cases type
  case empty => rfl
  case i420 => simp [planeSizes, tightSizes, word, half]; rfl
  case nv12 | nv21 | yuy2 | uyvy | rgba | bgra =>
    simp [planeSizes, tightSizes, Checked.map_fit32, word]

/-- Sizes that are found are the tight ones. -/
theorem tightSizes_of_planeSizes {type : PixelType} {width height : Nat}
    {sizes : List PlaneSize} (e : type.planeSizes width height = .ok sizes) :
    sizes = type.tightSizes width height := by
  cases type <;> simp only [planeSizes, Checked.bind_eq_ok, Checked.fit32_eq_ok] at e
  case empty | i420 => exact (Except.ok.inj e).symm
  case nv12 | nv21 | yuy2 | uyvy | rgba | bgra =>
    obtain ⟨row, ⟨-, rfl⟩, e⟩ := e
    exact (Except.ok.inj e).symm

end PixelType

/-! ## Planes of a size -/

namespace FramePlane

variable (plane : FramePlane) (size : PlaneSize)

/-- **Whether a plane is enough for a size**: its rows are as long, and they
are all there. -/
def Suffices : Prop :=
  size.rowBytes ≤ plane.stride ∧ plane.stride * size.rows ≤ plane.data.size

/-- Whether a plane is enough by the word of its stride. -/
def Passes : Prop :=
  size.rowBytes ≤ plane.stride % UInt32.size ∧ plane.stride * size.rows ≤ plane.data.size

/-- **Whether the bytes of a plane are more than can be counted**, and
nothing is wrong before they are counted. -/
def Overruns : Prop :=
  size.rowBytes ≤ plane.stride % UInt32.size ∧ UInt64.size ≤ plane.stride * size.rows

instance : Decidable (plane.Suffices size) := inferInstanceAs (Decidable (_ ∧ _))

instance : Decidable (plane.Passes size) := inferInstanceAs (Decidable (_ ∧ _))

instance : Decidable (plane.Overruns size) := inferInstanceAs (Decidable (_ ∧ _))

variable {plane size}

theorem Passes.suffices (h : plane.Passes size) : plane.Suffices size :=
  ⟨Nat.le_trans h.1 (Nat.mod_le _ _), h.2⟩

/-- With a stride that is a word there is no difference. -/
theorem Suffices.passes (h : plane.Suffices size) (narrow : plane.stride < UInt32.size) :
    plane.Passes size := by
  unfold Passes
  rw [Nat.mod_eq_of_lt narrow]
  exact h

end FramePlane

namespace VideoFrame

section Check

variable {format : VideoFormat} {i : Nat}

/-- **How a plane is judged**: it passes, its bytes are more than can be
counted, or it is refused. -/
theorem checkPlane_cases {size : PlaneSize} {plane : FramePlane}
    (width : format.byteWidth i = max size.rowBytes (plane.stride % UInt32.size))
    (height : format.byteHeight i = size.rows) (data : plane.data.size < UInt64.size) :
    plane.Passes size ∧ checkPlane format i plane = .ok (.ok ()) ∨
      ¬ plane.Passes size ∧
        (plane.Overruns size ∧ checkPlane format i plane = .error .overflow ∨
          ¬ plane.Overruns size ∧ ∃ e, checkPlane format i plane = .ok (.error e)) := by
  unfold FramePlane.Passes FramePlane.Overruns checkPlane
  rw [width, height]
  by_cases narrow : plane.stride % UInt32.size < size.rowBytes
  · rw [if_pos (by omega)]
    exact .inr ⟨by omega, .inr ⟨by omega, ⟨_, rfl⟩⟩⟩
  rw [if_neg (by omega)]
  by_cases many : UInt64.size ≤ plane.stride * size.rows
  · refine .inr ⟨by omega, .inl ⟨by omega, ?_⟩⟩
    unfold Checked.fit64
    rw [if_neg (by omega)]
    rfl
  have counted : Checked.fit64 (plane.stride * size.rows) = .ok (plane.stride * size.rows) :=
    Checked.fit64_eq_ok.2 ⟨by omega, rfl⟩
  by_cases short : plane.data.size < plane.stride * size.rows
  · exact .inr ⟨by omega, .inr ⟨by omega, ⟨_, Checked.bind_eq_ok.2 ⟨_, counted, if_pos short⟩⟩⟩⟩
  · exact .inl ⟨by omega, Checked.bind_eq_ok.2 ⟨_, counted, if_neg short⟩⟩

/-- **The first plane that does not pass decides.** -/
theorem checkPlanes_cases {pairs : List (PlaneSize × FramePlane)}
    (format_eq : ∀ j size plane, pairs[j]? = some (size, plane) →
      format.byteWidth (i + j) = max size.rowBytes (plane.stride % UInt32.size) ∧
        format.byteHeight (i + j) = size.rows)
    (data : ∀ pair ∈ pairs, pair.2.data.size < UInt64.size) :
    (∀ pair ∈ pairs, pair.2.Passes pair.1) ∧
        checkPlanes format i (pairs.map Prod.snd) = .ok (.ok ()) ∨
      ∃ size plane, pairs.find? (fun pair => ¬ pair.2.Passes pair.1) = some (size, plane) ∧
        (plane.Overruns size ∧
            checkPlanes format i (pairs.map Prod.snd) = .error .overflow ∨
          ¬ plane.Overruns size ∧
            ∃ e, checkPlanes format i (pairs.map Prod.snd) = .ok (.error e)) := by
  induction pairs generalizing i with
  | nil => exact .inl ⟨List.forall_mem_nil _, rfl⟩
  | cons pair pairs ih =>
    obtain ⟨size, plane⟩ := pair
    obtain ⟨width, height⟩ := format_eq 0 size plane rfl
    have rest : checkPlane format i plane = .ok (.ok ()) →
        checkPlanes format i (plane :: pairs.map Prod.snd) =
          checkPlanes format (i + 1) (pairs.map Prod.snd) := by
      intro e
      rw [checkPlanes, e]
      rfl
    rw [List.map_cons]
    obtain ⟨passes, e⟩ | ⟨fails, outcome⟩ := checkPlane_cases width height (data _ (.head _))
    · rw [rest e]
      have tail := @ih (i + 1)
        (fun j size plane h => by
          rw [Nat.add_assoc, Nat.add_comm 1 j]
          exact format_eq (j + 1) size plane h)
        (fun pair mem => data pair (.tail _ mem))
      rw [List.find?_cons_of_neg (by simpa using passes)]
      rw [List.forall_mem_cons]
      exact tail.imp (fun h => ⟨⟨passes, h.1⟩, h.2⟩) id
    · refine .inr ⟨size, plane, List.find?_cons_of_pos (by simpa using fails), ?_⟩
      obtain ⟨overruns, e⟩ | ⟨counted, x, e⟩ := outcome
      · refine .inl ⟨overruns, ?_⟩
        rw [checkPlanes, show checkPlane format i plane = _ from e]
        rfl
      · refine .inr ⟨counted, x, ?_⟩
        rw [checkPlanes, show checkPlane format i plane = _ from e]
        rfl

end Check

/-! ## Exact judgement -/

section Judgement

variable (type : PixelType) (width height : Nat) (planes : List FramePlane)

/-- Each plane with the tight size of its rows. -/
def sized : List (PlaneSize × FramePlane) := (type.tightSizes width height).zip planes

/-- **Whether there is a picture** and the planes are as many as its type
has. -/
structure Offered : Prop where
  /-- The type has pictures. -/
  type_ne : type ≠ .empty
  /-- The picture has columns. -/
  width_pos : 0 < width
  /-- The picture has rows. -/
  height_pos : 0 < height
  /-- There are as many planes as the type has. -/
  count : planes.length = type.layout.planeCount

/-- **Whether planes are those of a picture.** -/
structure Acceptable : Prop extends Offered type width height planes where
  /-- Each plane is enough for its size. -/
  enough : ∀ pair ∈ sized type width height planes, pair.2.Suffices pair.1

/-- **Whether planes are judged as they should be**: acceptable planes make a
frame with their strides, and others are answered to be no frame. -/
structure JudgedExactly : Prop where
  /-- Acceptable planes make a frame. -/
  taken : Acceptable type width height planes → ∃ frame,
    ofPlanes type width height planes = .ok (.ok frame) ∧
      ∀ i plane, planes[i]? = some plane → frame.format.byteWidth i = plane.stride
  /-- Others are refused. -/
  refused : ¬ Acceptable type width height planes → ∃ x,
    ofPlanes type width height planes = .ok (.error (.invalidFrame x))

/-- **Where words are too short** for the planes of a picture. -/
inductive Slips : Prop
  /-- A tight row is no word of 32 bits. -/
  | row (size : PlaneSize) (mem : size ∈ type.tightSizes width height)
    (long : UInt32.size ≤ size.rowBytes)
  /-- The rows of the first plane that does not pass are no word of 64 bits. -/
  | bytes (size : PlaneSize) (plane : FramePlane)
    (first : (sized type width height planes).find? (fun pair => ¬ pair.2.Passes pair.1) =
      some (size, plane))
    (many : plane.Overruns size)
  /-- An acceptable stride is no word of 32 bits. -/
  | stride (acceptable : Acceptable type width height planes) (plane : FramePlane)
    (mem : plane ∈ planes) (long : UInt32.size ≤ plane.stride)

variable {type width height planes}

/-- Without a picture, or with another count of planes, there is no frame. -/
theorem ofPlanes_of_not_offered (h : ¬ Offered type width height planes) :
    ∃ x, ofPlanes type width height planes = .ok (.error (.invalidFrame x)) := by
  unfold ofPlanes
  by_cases picture : type = .empty ∨ width = 0 ∨ height = 0
  · rw [if_pos picture]
    exact ⟨_, rfl⟩
  · rw [if_neg picture]
    simp only [not_or] at picture
    have count : planes.length ≠ type.layout.planeCount := fun count =>
      h ⟨picture.1, Nat.pos_of_ne_zero picture.2.1, Nat.pos_of_ne_zero picture.2.2, count⟩
    dsimp only
    rw [if_pos count]
    exact ⟨_, rfl⟩

namespace Offered

variable (h : Offered type width height planes)
include h

/-- The planes are those that have sizes. -/
theorem map_snd_sized : (sized type width height planes).map Prod.snd = planes := by
  refine List.map_snd_zip (Nat.le_of_eq ?_)
  rw [h.count, PixelType.length_tightSizes]

theorem ofPlanes_eq : ofPlanes type width height planes = do
    let format ← VideoFormat.withStrides type width height
      (planes.map fun p => p.stride % UInt32.size)
    match ← checkPlanes format 0 planes with
    | .error e => return .error (.invalidFrame e)
    | .ok () => return .ok ⟨format, planes⟩ := by
  unfold ofPlanes
  rw [if_neg (by
    rintro (e | e | e)
    · exact h.type_ne e
    · exact Nat.ne_of_gt h.width_pos e
    · exact Nat.ne_of_gt h.height_pos e)]
  exact if_neg fun more => more h.count

theorem withStrides_eq (word : width < UInt32.size) (strides : List Nat) :
    VideoFormat.withStrides type width height strides =
      if ∀ size ∈ type.tightSizes width height, size.rowBytes < UInt32.size then
        .ok ⟨type, width, height, VideoFormat.widen (type.tightSizes width height) strides⟩
      else .error .overflow := by
  unfold VideoFormat.withStrides VideoFormat.tight
  rw [if_neg (by
    have := h.width_pos
    have := h.height_pos
    omega), PixelType.planeSizes_eq type word]
  split <;> rfl

/-- **A tight row that is no word** is a fault. -/
theorem ofPlanes_of_long_row (word : width < UInt32.size)
    (long : ∃ size ∈ type.tightSizes width height, UInt32.size ≤ size.rowBytes) :
    ofPlanes type width height planes = .error .overflow := by
  rw [h.ofPlanes_eq, h.withStrides_eq word, if_neg (by
    obtain ⟨size, mem, long⟩ := long
    intro rows
    exact Nat.not_lt.2 long (rows size mem))]
  rfl

/-- **How planes are judged** if tight rows are words: they make a frame, or
the first that does not pass is counted in vain or refused. -/
theorem ofPlanes_cases (word : width < UInt32.size)
    (rows : ∀ size ∈ type.tightSizes width height, size.rowBytes < UInt32.size)
    (data : ∀ plane ∈ planes, plane.data.size < UInt64.size) :
    (∀ pair ∈ sized type width height planes, pair.2.Passes pair.1) ∧
        ofPlanes type width height planes =
          .ok (.ok ⟨⟨type, width, height, VideoFormat.widen (type.tightSizes width height)
            (planes.map fun p => p.stride % UInt32.size)⟩, planes⟩) ∨
      ∃ size plane, (sized type width height planes).find?
          (fun pair => ¬ pair.2.Passes pair.1) = some (size, plane) ∧
        (plane.Overruns size ∧ ofPlanes type width height planes = .error .overflow ∨
          ¬ plane.Overruns size ∧
            ∃ x, ofPlanes type width height planes = .ok (.error (.invalidFrame x))) := by
  rw [h.ofPlanes_eq, h.withStrides_eq word, if_pos rows]
  dsimp only [bind, Except.bind]
  have format_eq (j : Nat) (size : PlaneSize) (plane : FramePlane)
      (hj : (sized type width height planes)[j]? = some (size, plane)) :
      let format : VideoFormat := ⟨type, width, height, VideoFormat.widen
        (type.tightSizes width height) (planes.map fun p => p.stride % UInt32.size)⟩
      format.byteWidth (0 + j) = max size.rowBytes (plane.stride % UInt32.size) ∧
        format.byteHeight (0 + j) = size.rows := by
    obtain ⟨hsize, hplane⟩ := List.getElem?_zip_eq_some.1 hj
    have widened := VideoFormat.getElem?_widen (type.tightSizes width height)
      (planes.map fun p => p.stride % UInt32.size) j
    rw [hsize, List.getElem?_map, hplane] at widened
    dsimp only
    rw [Nat.zero_add, VideoFormat.byteWidth_eq widened, VideoFormat.byteHeight_eq widened]
    exact ⟨rfl, rfl⟩
  have outcome := checkPlanes_cases format_eq fun pair mem =>
    data pair.2 (List.of_mem_zip mem).2
  rw [h.map_snd_sized] at outcome
  obtain ⟨pass, e⟩ | ⟨size, plane, first, ⟨overruns, e⟩ | ⟨counted, x, e⟩⟩ := outcome
  · refine .inl ⟨pass, ?_⟩
    rw [e]
    rfl
  · refine .inr ⟨size, plane, first, .inl ⟨overruns, ?_⟩⟩
    rw [e]
  · refine .inr ⟨size, plane, first, .inr ⟨counted, x, ?_⟩⟩
    rw [e]
    rfl

end Offered

/-- **Acceptable planes make a frame** if their strides are words. -/
theorem Acceptable.ofPlanes_eq_ok (h : Acceptable type width height planes)
    (word : width < UInt32.size)
    (narrow : ∀ plane ∈ planes, plane.stride < UInt32.size)
    (data : ∀ plane ∈ planes, plane.data.size < UInt64.size) :
    ofPlanes type width height planes =
      .ok (.ok ⟨⟨type, width, height, VideoFormat.widen (type.tightSizes width height)
        (planes.map FramePlane.stride)⟩, planes⟩) := by
  have pass : ∀ pair ∈ sized type width height planes, pair.2.Passes pair.1 := fun pair mem =>
    (h.enough pair mem).passes (narrow _ (List.of_mem_zip mem).2)
  have strides : (planes.map fun p => p.stride % UInt32.size) = planes.map FramePlane.stride :=
    List.map_congr_left fun p mem => Nat.mod_eq_of_lt (narrow p mem)
  have rows : ∀ size ∈ type.tightSizes width height, size.rowBytes < UInt32.size := by
    intro size mem
    obtain ⟨pair, paired, rfl⟩ : ∃ pair ∈ sized type width height planes, pair.1 = size := by
      rw [← List.mem_map, sized, List.map_fst_zip]
      · exact mem
      · exact Nat.le_of_eq (by rw [h.count, PixelType.length_tightSizes])
    exact Nat.lt_of_le_of_lt (pass pair paired).1 (Nat.mod_lt _ (by decide))
  obtain ⟨-, e⟩ | ⟨size, plane, first, -⟩ := h.ofPlanes_cases word rows data
  · rw [e, strides]
  · -- every plane passes, so there is no first one that does not
    have fails := List.find?_some first
    have passes := pass _ (List.mem_of_find?_eq_some first)
    simp only [decide_not, Bool.not_eq_true', decide_eq_false_iff_not] at fails
    exact absurd passes fails

/-- What is judged exactly is no fault. -/
theorem JudgedExactly.ne_fault (h : JudgedExactly type width height planes) (fault : Fault) :
    ofPlanes type width height planes ≠ .error fault := by
  intro e
  by_cases acceptable : Acceptable type width height planes
  · obtain ⟨frame, ok, -⟩ := h.taken acceptable
    cases e.symm.trans ok
  · obtain ⟨x, ok⟩ := h.refused acceptable
    cases e.symm.trans ok

/-- Every plane that is offered has its size. -/
theorem Offered.mem_sized (h : Offered type width height planes) {i : Nat} {plane : FramePlane}
    (hi : planes[i]? = some plane) :
    ∃ size, (type.tightSizes width height)[i]? = some size ∧
      (size, plane) ∈ sized type width height planes := by
  have lt : i < (type.tightSizes width height).length := by
    rw [PixelType.length_tightSizes, ← h.count]
    exact (List.getElem?_eq_some_iff.1 hi).1
  have size := List.getElem?_eq_getElem lt
  exact ⟨_, size, List.mem_of_getElem? (List.getElem?_zip_eq_some.2 ⟨size, hi⟩)⟩

/-- **The rows of a frame are the words of the strides**, if every plane
passes. -/
theorem Offered.byteWidth_eq (h : Offered type width height planes)
    (pass : ∀ pair ∈ sized type width height planes, pair.2.Passes pair.1) {i : Nat}
    {plane : FramePlane} (hi : planes[i]? = some plane) :
    VideoFormat.byteWidth ⟨type, width, height, VideoFormat.widen (type.tightSizes width height)
      (planes.map fun p => p.stride % UInt32.size)⟩ i = plane.stride % UInt32.size := by
  obtain ⟨size, hsize, mem⟩ := h.mem_sized hi
  have widened := VideoFormat.getElem?_widen (type.tightSizes width height)
    (planes.map fun p => p.stride % UInt32.size) i
  rw [hsize, List.getElem?_map, hi] at widened
  rw [VideoFormat.byteWidth_eq widened]
  exact Nat.max_eq_right (pass _ mem).1

/-- **Planes are judged exactly, unless words are too short for them.** For
every type and size and all planes, with whatever strides and bytes: the
acceptable ones make a frame that has their strides, and the others are
answered to be no frame, if and only if there is no picture to be had, or
none of the three slips happens. -/
theorem ofPlanes_exact_iff (word : width < UInt32.size)
    (data : ∀ plane ∈ planes, plane.data.size < UInt64.size) :
    JudgedExactly type width height planes ↔
      ¬ (Offered type width height planes ∧ Slips type width height planes) := by
  by_cases offered : Offered type width height planes
  case neg =>
    refine ⟨fun _ h => offered h.1, fun _ => ⟨fun h => absurd h.toOffered offered, fun _ => ?_⟩⟩
    exact ofPlanes_of_not_offered offered
  rw [and_iff_right offered]
  by_cases row : ∃ size ∈ type.tightSizes width height, UInt32.size ≤ size.rowBytes
  case pos =>
    -- whatever the planes are
    have fault := offered.ofPlanes_of_long_row word row
    obtain ⟨size, mem, long⟩ := row
    exact iff_of_false (fun judged => judged.ne_fault _ fault)
      fun clear => clear (.row size mem long)
  have rows (size : PlaneSize) (mem : size ∈ type.tightSizes width height) :
      size.rowBytes < UInt32.size := Nat.lt_of_not_le fun long => row ⟨size, mem, long⟩
  obtain ⟨pass, e⟩ | ⟨size, plane, first, ⟨overruns, e⟩ | ⟨counted, x, e⟩⟩ :=
    offered.ofPlanes_cases word rows data
  · -- a frame was made, and its rows are the words of the strides
    have acceptable : Acceptable type width height planes :=
      ⟨offered, fun pair mem => (pass pair mem).suffices⟩
    constructor
    · rintro judged (⟨size, mem, long⟩ | ⟨size, plane, first, -⟩ | ⟨-, plane, mem, long⟩)
      · exact row ⟨size, mem, long⟩
      · have passes := pass _ (List.mem_of_find?_eq_some first)
        exact absurd passes (by simpa using List.find?_some first)
      · obtain ⟨frame, made, widths⟩ := judged.taken acceptable
        cases e.symm.trans made
        obtain ⟨i, hi⟩ := List.mem_iff_getElem?.1 mem
        have width_eq := (offered.byteWidth_eq pass hi).symm.trans (widths i plane hi)
        have := Nat.mod_lt plane.stride (show 0 < UInt32.size by decide)
        omega
    · intro clear
      refine ⟨fun _ => ⟨_, e, fun i plane hi => ?_⟩, fun h => absurd acceptable h⟩
      rw [offered.byteWidth_eq pass hi]
      exact Nat.mod_eq_of_lt (Nat.lt_of_not_le fun long =>
        clear (.stride acceptable plane (List.mem_of_getElem? hi) long))
  · -- the bytes of a plane were counted in vain
    exact iff_of_false (fun judged => judged.ne_fault _ e)
      fun clear => clear (.bytes size plane first overruns)
  · -- a plane was refused, and wrongly so only if its stride is no word
    have mem := List.mem_of_find?_eq_some first
    have fails : ¬ plane.Passes size := by simpa using List.find?_some first
    constructor
    · rintro judged (⟨size, mem, long⟩ | ⟨size', plane', first', many⟩ | ⟨acceptable, -, -, -⟩)
      · exact row ⟨size, mem, long⟩
      · cases first.symm.trans first'
        exact counted many
      · obtain ⟨frame, made, -⟩ := judged.taken acceptable
        cases e.symm.trans made
    · intro clear
      refine ⟨fun acceptable => ?_, fun _ => ⟨x, e⟩⟩
      have narrow : plane.stride < UInt32.size := Nat.lt_of_not_le fun long =>
        clear (.stride acceptable plane (List.of_mem_zip mem).2 long)
      exact absurd ((acceptable.enough _ mem).passes narrow) fails

end Judgement

/-- A picture of two pixels a side with rows of four and of three bytes, and
bytes that are left over. -/
theorem ofPlanes_exact_iff_padded :
    let planes : List FramePlane := [⟨#[1, 2, 0, 0, 3, 4, 0, 0, 9], 4⟩, ⟨#[5, 6, 0], 3⟩]
    2 < UInt32.size ∧ (∀ plane ∈ planes, plane.data.size < UInt64.size) ∧
      JudgedExactly .nv12 2 2 planes := by
  intro planes
  have data : ∀ plane ∈ planes, plane.data.size < UInt64.size := by decide
  refine ⟨by decide, data, (ofPlanes_exact_iff (by decide) data).2 ?_⟩
  rintro ⟨-, ⟨size, mem, long⟩ | ⟨size, plane, first, -⟩ | ⟨-, plane, mem, long⟩⟩
  · revert size
    decide
  · cases first
  · revert plane
    decide

/-- **A row of 2³² bytes is not refused**: four bytes are no picture of 2³⁰
columns, and the answer should be that they are none. -/
theorem ofPlanes_overlong_row :
    ¬ JudgedExactly .rgba (2 ^ 30) 1 [⟨#[0, 0, 0, 0], 4⟩] := by
  intro judged
  exact judged.ne_fault .overflow rfl

/-- Four rows of a quarter of all words, of a picture one pixel wide. -/
example : ofPlanes .i420 1 4 [⟨#[], 2 ^ 62 + 1⟩, ⟨#[], 1⟩, ⟨#[], 1⟩] = .error .overflow := rfl

end VideoFrame

end Projector
