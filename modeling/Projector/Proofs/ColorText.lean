import Projector.Proofs.Arithmetic
import Projector.Proofs.ConfigText

/-!
# Colour properties as texts

Four numbers between -1 and 1 with commas between them are colour properties, and
nothing else is. What is wrong with another text is said once, and of several things
the one that is found first: a piece that is no number comes before another count of
pieces than four, even if the pieces behind the fourth are meant, and only four numbers
are compared with their range.

`ColorProperty.Reading` says this about the pieces of a text, with one rule for each
answer, and `Splits` says which the pieces are. The reader gives the answer that the
rules give, and so there is one for every text.
-/

namespace Projector

open Decimal (NumberDefect readNumber)

/-! ## Pieces -/

namespace Text

variable {mark : Char} {s : List Char} {pieces : List (List Char)}

/-- **A text is cut at a mark**: there is no mark in the pieces, and there is one between
any two of them. -/
structure Splits (mark : Char) (s : List Char) (pieces : List (List Char)) : Prop where
  /-- There is a piece, even if it is empty. -/
  some : pieces ≠ []
  /-- No piece has a mark in it. -/
  plain : ∀ piece ∈ pieces, mark ∉ piece
  /-- The pieces make up the text. -/
  joined : [mark].intercalate pieces = s

theorem not_mem_of_mem_splitAt {piece : List Char} (h : piece ∈ splitAt mark s) : mark ∉ piece := by
  induction s generalizing piece with
  | nil =>
    rw [List.mem_singleton.1 h]
    exact List.not_mem_nil
  | cons c s ih =>
    rw [splitAt] at h
    split at h
    · obtain rfl | h := List.mem_cons.1 h
      · exact List.not_mem_nil
      · exact ih h
    · next other =>
      obtain ⟨first, rest, cut⟩ := List.exists_cons_of_ne_nil (splitAt_ne_nil mark s)
      rw [cut] at h ih
      obtain rfl | h := List.mem_cons.1 h
      · exact List.not_mem_cons_of_ne_of_not_mem (Ne.symm other) (ih List.mem_cons_self)
      · exact ih (List.mem_cons_of_mem first h)

/-- **There is one way to cut a text.** -/
theorem splits_iff : Splits mark s pieces ↔ splitAt mark s = pieces := by
  constructor
  · rintro ⟨some, plain, rfl⟩
    induction pieces with
    | nil => exact absurd rfl some
    | cons piece pieces ih =>
      obtain ⟨here, rest⟩ := List.forall_mem_cons.1 plain
      cases pieces with
      | nil => rw [List.intercalate_singleton, splitAt_of_not_mem here]
      | cons next pieces =>
        have text : [mark].intercalate (piece :: next :: pieces) =
            piece ++ mark :: [mark].intercalate (next :: pieces) := by
          simp
        rw [text, splitAt_append_cons here, ih (List.cons_ne_nil _ _) rest]
  · rintro rfl
    exact ⟨splitAt_ne_nil mark s, fun _ => not_mem_of_mem_splitAt, intercalate_splitAt mark s⟩

end Text

/-! ## One answer for all pieces -/

section

variable {α β ε : Type} {f : α → Except ε β} {e : ε} {xs : List α} {ys : List β}

/-- All answers are values, one for each element. -/
theorem mapM_eq_ok : xs.mapM f = .ok ys ↔ List.Forall₂ (fun x y => f x = .ok y) xs ys := by
  induction xs generalizing ys with
  | nil =>
    rw [List.mapM_nil, List.forall₂_nil_left_iff]
    exact ⟨fun h => (Except.ok.inj h).symm, fun h => congrArg Except.ok h.symm⟩
  | cons x xs ih =>
    rw [List.mapM_cons, List.forall₂_cons_left_iff]
    cases hx : f x with
    | error e => exact ⟨nofun, fun ⟨_, _, h, _⟩ => nomatch h⟩
    | ok y =>
      show (List.mapM f xs >>= fun ys => pure (y :: ys)) = _ ↔ _
      cases hxs : xs.mapM f with
      | error e =>
        refine ⟨nofun, fun ⟨_, _, _, h, _⟩ => ?_⟩
        cases hxs.symm.trans (ih.2 h)
      | ok zs =>
        constructor
        · rintro ⟨⟩
          exact ⟨y, zs, rfl, ih.1 hxs, rfl⟩
        · rintro ⟨_, _, ⟨⟩, h, rfl⟩
          rw [Except.ok.inj (hxs.symm.trans (ih.2 h))]
          rfl

/-- **The first error is the answer**, and all before it are values. -/
theorem mapM_eq_error : xs.mapM f = .error e ↔ ∃ before x after, xs = before ++ x :: after ∧
    (∀ y ∈ before, ∃ z, f y = .ok z) ∧ f x = .error e := by
  induction xs with
  | nil =>
    rw [List.mapM_nil]
    refine ⟨nofun, fun ⟨before, x, after, h, _⟩ => ?_⟩
    exact absurd h.symm (List.append_ne_nil_of_right_ne_nil _ (List.cons_ne_nil _ _))
  | cons x xs ih =>
    rw [List.mapM_cons]
    constructor
    · intro h
      cases hx : f x with
      | error e' =>
        rw [hx] at h
        cases h
        exact ⟨[], x, xs, rfl, List.forall_mem_nil _, hx⟩
      | ok y =>
        have later : xs.mapM f = .error e := by
          rw [hx] at h
          cases hxs : xs.mapM f with
          | error e' =>
            rw [hxs] at h
            exact congrArg Except.error (Except.error.inj h)
          | ok ys =>
            rw [hxs] at h
            cases h
        obtain ⟨before, z, after, rfl, values, wrong⟩ := ih.1 later
        exact ⟨x :: before, z, after, rfl, List.forall_mem_cons.2 ⟨⟨y, hx⟩, values⟩, wrong⟩
    · rintro ⟨before, z, after, cut, values, wrong⟩
      cases before with
      | nil =>
        obtain ⟨rfl, rfl⟩ := List.cons.inj cut
        rw [wrong]
        rfl
      | cons w before =>
        obtain ⟨rfl, rfl⟩ := List.cons.inj cut
        obtain ⟨⟨y, hx⟩, values⟩ := List.forall_mem_cons.1 values
        rw [hx, ih.2 ⟨before, z, after, rfl, values, wrong⟩]
        rfl

end

namespace ColorProperty

/-! ## Numbers in their range -/

/-- **A number between -1 and 1.** -/
def Within (x : Float) : Prop := x.isFinite = true ∧ |Float.exact x| ≤ 1

theorem one_finite : (1 : Float).isFinite = true ∧ Float.exact 1 = 1 ∧
    (-1 : Float).isFinite = true ∧ Float.exact (-1) = -1 := by
  decide +kernel

/-- **This is what the range says.** -/
theorem inRange_iff {x : Float} : inRange x = true ↔ Within x := by
  obtain ⟨one, value, one', value'⟩ := one_finite
  constructor
  · intro h
    have finite := isFinite_of_inRange h
    rw [inRange, Bool.and_eq_true, decide_eq_true_eq, decide_eq_true_eq,
      Float.le_iff one' finite, Float.le_iff finite one, value, value'] at h
    exact ⟨finite, abs_le.2 h⟩
  · rintro ⟨finite, near⟩
    rw [inRange, Bool.and_eq_true, decide_eq_true_eq, decide_eq_true_eq,
      Float.le_iff one' finite, Float.le_iff finite one, value, value']
    exact abs_le.1 near

/-- A number in its range is not cut down. -/
theorem clamp_of_within {x : Float} (h : Within x) : Scalar.clamp x (-1) 1 = x := by
  obtain ⟨one, value, one', value'⟩ := one_finite
  obtain ⟨finite, near⟩ := h
  have least : ¬ x < -1 := by
    rw [Float.lt_iff finite one', value']
    exact (abs_le.1 near).1.not_gt
  have most : ¬ 1 < x := by
    rw [Float.lt_iff one finite, value]
    exact (abs_le.1 near).2.not_gt
  exact (if_neg least).trans (if_neg most)

variable {p : ColorProperty} {e : ColorError}

theorem clamped_of_within (h : ∀ c ∈ p.components, Within c.2) : p.clamped = p := by
  simp only [components, List.forall_mem_cons] at h
  obtain ⟨brightness, contrast, saturation, hue, -⟩ := h
  unfold clamped
  rw [clamp_of_within brightness, clamp_of_within contrast, clamp_of_within saturation,
    clamp_of_within hue]

theorem not_inRange_iff {x : Float} : (!inRange x) = true ↔ ¬ Within x := by
  rw [Bool.not_eq_true', ← Bool.not_eq_true, inRange_iff]

/-- Valid properties are in their range. -/
theorem validate_eq_ok : p.validate = .ok () ↔ ∀ c ∈ p.components, Within c.2 := by
  have all : (∀ c ∈ p.components, Within c.2) ↔
      (p.components.find? fun c => !inRange c.2) = none := by
    rw [List.find?_eq_none]
    refine forall₂_congr fun c _ => ?_
    rw [not_inRange_iff, not_not]
  rw [all]
  unfold validate
  cases p.components.find? fun c => !inRange c.2 with
  | none => exact ⟨fun _ => rfl, fun _ => rfl⟩
  | some c => exact ⟨nofun, nofun⟩

/-- **The first property out of its range is the error.** -/
theorem validate_eq_error : p.validate = .error e ↔ ∃ before component value after,
    p.components = before ++ (component, value) :: after ∧ (∀ c ∈ before, Within c.2) ∧
      ¬ Within value ∧ e = .outOfRange component value := by
  have first (c : ColorComponent × Float) : (p.components.find? fun c => !inRange c.2) = some c ↔
      ¬ Within c.2 ∧ ∃ before after, p.components = before ++ c :: after ∧
        ∀ c ∈ before, Within c.2 := by
    rw [List.find?_eq_some_iff_append]
    refine and_congr not_inRange_iff (exists₂_congr fun before after => and_congr_right' ?_)
    refine forall₂_congr fun c _ => ?_
    rw [Bool.not_not, inRange_iff]
  unfold validate
  constructor
  · intro h
    split at h
    · next component value found =>
      obtain ⟨out, before, after, cut, inside⟩ := (first _).1 found
      exact ⟨before, component, value, after, cut, inside, out, (Except.error.inj h).symm⟩
    · cases h
  · rintro ⟨before, component, value, after, cut, inside, out, rfl⟩
    rw [(first (component, value)).2 ⟨out, before, after, cut, inside⟩]

/-! ## Reading -/

/-- **A piece is read as a number**; blanks around it do not count. -/
def Reads (piece : List Char) (x : Float) : Prop := readNumber (Text.trim piece) = .ok x

/-- **What the pieces of a text are read as.** -/
inductive Reading : List (List Char) → Except ColorError ColorProperty → Prop
  /-- Four numbers in their range are the properties, in their order. -/
  | properties {pieces : List (List Char)} {p : ColorProperty}
    (numbers : List.Forall₂ Reads pieces (p.components.map Prod.snd))
    (inside : ∀ c ∈ p.components, Within c.2) : Reading pieces (.ok p)
  /-- The first piece that is no number is an error, however many there are. -/
  | notANumber {before after : List (List Char)} {piece : List Char} {defect : NumberDefect}
    (numbers : ∀ q ∈ before, ∃ x, Reads q x)
    (wrong : readNumber (Text.trim piece) = .error defect) :
    Reading (before ++ piece :: after) (.error (.notANumber (String.ofList piece) defect))
  /-- So is another count of numbers than four. -/
  | wrongCount {pieces : List (List Char)} {values : List Float}
    (numbers : List.Forall₂ Reads pieces values) (count : pieces.length ≠ 4) :
    Reading pieces (.error (.wrongCount pieces.length))
  /-- So is the first of four numbers that is out of its range. -/
  | outOfRange {pieces : List (List Char)} {p : ColorProperty}
    {before after : List (ColorComponent × Float)} {component : ColorComponent} {value : Float}
    (numbers : List.Forall₂ Reads pieces (p.components.map Prod.snd))
    (cut : p.components = before ++ (component, value) :: after)
    (inside : ∀ c ∈ before, Within c.2) (out : ¬ Within value) :
    Reading pieces (.error (.outOfRange component value))

variable {pieces : List (List Char)} {piece : List Char} {values : List Float}

theorem readPiece_eq_ok {x : Float} : readPiece piece = .ok x ↔ Reads piece x := by
  unfold readPiece Reads
  cases readNumber (Text.trim piece) with
  | ok y => constructor <;> rintro ⟨⟩ <;> rfl
  | error defect => exact ⟨nofun, nofun⟩

theorem readPiece_eq_error : readPiece piece = .error e ↔
    ∃ defect, readNumber (Text.trim piece) = .error defect ∧
      e = .notANumber (String.ofList piece) defect := by
  unfold readPiece
  cases readNumber (Text.trim piece) with
  | ok y => exact ⟨nofun, nofun⟩
  | error defect =>
    constructor
    · rintro ⟨⟩
      exact ⟨defect, rfl, rfl⟩
    · rintro ⟨_, ⟨⟩, rfl⟩
      rfl

/-- What four numbers stand for. -/
def ofValues (values : List Float) : Except ColorError ColorProperty :=
  match values with
  | [brightness, contrast, saturation, hue] =>
    let p : ColorProperty := ⟨brightness, contrast, saturation, hue⟩
    do
      p.validate
      return p
  | _ => throw (.wrongCount values.length)

theorem ofValues_components (p : ColorProperty) :
    ofValues (p.components.map Prod.snd) = p.validate >>= fun _ => .ok p := rfl

theorem ofValues_of_length_ne (count : values.length ≠ 4) :
    ofValues values = .error (.wrongCount values.length) := by
  unfold ofValues
  split
  · exact absurd rfl count
  · rfl

/-- Four numbers are those of some properties. -/
theorem exists_components (count : values.length = 4) :
    ∃ p : ColorProperty, values = p.components.map Prod.snd := by
  match values, count with
  | [brightness, contrast, saturation, hue], _ =>
    exact ⟨⟨brightness, contrast, saturation, hue⟩, rfl⟩

/-- All pieces are numbers. -/
theorem mapM_readPiece_eq_ok :
    pieces.mapM readPiece = .ok values ↔ List.Forall₂ Reads pieces values := by
  rw [mapM_eq_ok]
  refine ⟨fun h => h.imp fun _ _ => readPiece_eq_ok.1, fun h => h.imp fun _ _ => readPiece_eq_ok.2⟩

/-- **What is read follows one of the rules.** -/
theorem reading_of_read (pieces : List (List Char)) :
    Reading pieces (pieces.mapM readPiece >>= ofValues) := by
  cases read : pieces.mapM readPiece with
  | error e =>
    obtain ⟨before, piece, after, rfl, numbers, wrong⟩ := mapM_eq_error.1 read
    obtain ⟨defect, defective, rfl⟩ := readPiece_eq_error.1 wrong
    exact .notANumber (fun q hq => (numbers q hq).imp fun _ => readPiece_eq_ok.1) defective
  | ok values =>
    have numbers := mapM_readPiece_eq_ok.1 read
    have length := numbers.length_eq
    show Reading pieces (ofValues values)
    by_cases count : values.length = 4
    · obtain ⟨p, rfl⟩ := exists_components count
      rw [ofValues_components]
      cases valid : p.validate with
      | ok _ => exact .properties numbers (validate_eq_ok.1 valid)
      | error e =>
        obtain ⟨before, component, value, after, cut, inside, out, rfl⟩ :=
          validate_eq_error.1 valid
        exact .outOfRange numbers cut inside out
    · rw [ofValues_of_length_ne count, ← length]
      exact .wrongCount numbers (length ▸ count)

/-- **And there is one answer by the rules.** -/
theorem Reading.read_eq {answer : Except ColorError ColorProperty} (h : Reading pieces answer) :
    pieces.mapM readPiece >>= ofValues = answer := by
  cases h with
  | @properties _ p numbers inside =>
    rw [mapM_readPiece_eq_ok.2 numbers]
    show ofValues (p.components.map Prod.snd) = _
    rw [ofValues_components, validate_eq_ok.2 inside]
    rfl
  | @notANumber before after piece defect numbers wrong =>
    have first : (before ++ piece :: after).mapM readPiece = .error _ :=
      mapM_eq_error.2 ⟨before, piece, after, rfl,
        fun q hq => (numbers q hq).imp fun _ => readPiece_eq_ok.2,
        readPiece_eq_error.2 ⟨defect, wrong, rfl⟩⟩
    rw [first]
    rfl
  | @wrongCount _ values numbers count =>
    have length := numbers.length_eq
    rw [mapM_readPiece_eq_ok.2 numbers]
    show ofValues values = _
    rw [ofValues_of_length_ne (length ▸ count), length]
  | @outOfRange _ p before after component value numbers cut inside out =>
    rw [mapM_readPiece_eq_ok.2 numbers]
    show ofValues (p.components.map Prod.snd) = _
    rw [ofValues_components,
      validate_eq_error.2 ⟨before, component, value, after, cut, inside, out, rfl⟩]
    rfl

/-- **A text is answered by its pieces.** -/
theorem parse_iff (text : String) (answer : Except ColorError ColorProperty) :
    parse text = answer ↔ ∃ pieces, Text.Splits ',' text.toList pieces ∧ Reading pieces answer := by
  constructor
  · rintro rfl
    exact ⟨_, Text.splits_iff.2 rfl, reading_of_read _⟩
  · rintro ⟨pieces, splits, reading⟩
    obtain rfl := Text.splits_iff.1 splits
    exact reading.read_eq

end ColorProperty

/-- **Every text has the answer that the rules give**: properties that are valid and are
not cut down any more, or the one error that is found first. What is no number is
quoted with the blanks around it. -/
theorem color_text_answered :
    (∀ (text : String) (answer : Except ColorError ColorProperty),
      ColorProperty.parse text = answer ↔
        ∃ pieces, Text.Splits ',' text.toList pieces ∧ ColorProperty.Reading pieces answer) ∧
    (∀ (text : String) (p : ColorProperty), ColorProperty.parse text = .ok p →
      p.validate = .ok () ∧ p.clamped = p) ∧
    ∀ (piece : String) (defect : NumberDefect), (ColorError.notANumber piece defect).message =
      "parse error: " ++ Text.quoted piece ++ ": " ++ defect.message := by
  refine ⟨ColorProperty.parse_iff, fun text p read => ?_, fun piece defect => rfl⟩
  obtain ⟨pieces, -, reading⟩ := (ColorProperty.parse_iff text _).1 read
  cases reading with
  | properties numbers inside =>
    exact ⟨ColorProperty.validate_eq_ok.2 inside, ColorProperty.clamped_of_within inside⟩

-- a piece that is no number comes before the count, and before a number out of its range
example : ColorProperty.parse "2,3, x" = .error (.notANumber " x" .malformed) := rfl

/-- Some properties are read. -/
theorem color_text_answered_turned :
    ColorProperty.parse " 0.5 ,-1,0, 1" = .ok ⟨0.5, -1, 0, 1⟩ ∧
      (⟨0.5, -1, 0, 1⟩ : ColorProperty).validate = .ok () ∧
      (⟨0.5, -1, 0, 1⟩ : ColorProperty).clamped = ⟨0.5, -1, 0, 1⟩ := by
  have read : ColorProperty.parse " 0.5 ,-1,0, 1" = .ok ⟨0.5, -1, 0, 1⟩ := by
    rfl
  exact ⟨read, color_text_answered.2.1 _ _ read⟩

end Projector
