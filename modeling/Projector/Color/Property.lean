import Projector.Decimal.Reader
import Projector.Decimal.Style
import Projector.Scalar
import Projector.Text.Blank
import Projector.Text.Quoted

/-!
# Colour properties

Brightness, contrast, saturation and hue, each between -1 and 1, with 0
for a picture that stays as it is. The fragment program wants other terms:
a summand and a factor for luma, and a rotation with a scale for the
chroma plane. `ColorProperty.coefficients` gives them.

`ColorProperty.parse` reads four numbers with commas between them. Three
things can be wrong, and they are looked for in this order: a piece that
is no number, another count of pieces than four, a number out of range.
-/

namespace Projector

open Decimal

/-- **One of the four properties.** -/
inductive ColorComponent where
  /-- Added to luma. -/
  | brightness
  /-- Multiplied with luma. -/
  | contrast
  /-- Multiplied with chroma. -/
  | saturation
  /-- The angle by which chroma is turned. -/
  | hue
  deriving DecidableEq, Repr

/-- The name of a property in messages. -/
def ColorComponent.name : ColorComponent → String
  | brightness => "brightness"
  | contrast => "contrast"
  | saturation => "saturation"
  | hue => "hue"

/-- **What can be wrong with colour properties.** -/
inductive ColorError where
  /-- A property lies outside its range. -/
  | outOfRange (component : ColorComponent) (value : Float)
  /-- A piece of the text is no number. -/
  | notANumber (piece : String) (defect : NumberDefect)
  /-- The text has another number of pieces than four. -/
  | wrongCount (got : Nat)

/-- The message of a colour error. -/
def ColorError.message : ColorError → String
  | outOfRange component value =>
    s!"{component.name} out of range: {NumberStyle.plain.double value} (expected -1.0..=1.0)"
  | notANumber piece defect => s!"parse error: {Text.quoted piece}: {defect.message}"
  | wrongCount got => s!"dimension mismatch: expected 4, got {got}"

/-- **The colour properties of a picture.** -/
structure ColorProperty where
  /-- Added to luma. -/
  brightness : Float
  /-- Scales luma. -/
  contrast : Float
  /-- Scales chroma. -/
  saturation : Float
  /-- Turns chroma, in half turns. -/
  hue : Float
  deriving BEq

/-- **What the fragment program computes with.** -/
structure ColorCoefficients where
  /-- Added to luma. -/
  brightness : Float32
  /-- Factor of luma, between 0 and 2. -/
  contrast : Float32
  /-- Factor of chroma, times the cosine of the angle. -/
  satCos : Float32
  /-- Factor of chroma, times the sine of the angle. -/
  satSin : Float32

namespace ColorProperty

/-- A picture that stays as it is. -/
def neutral : ColorProperty := ⟨0, 0, 0, 0⟩

/-- Whether the picture stays as it is. -/
def isNeutral (p : ColorProperty) : Bool := p == neutral

/-- Every property cut down to its range. -/
def clamped (p : ColorProperty) : ColorProperty :=
  ⟨Scalar.clamp p.brightness (-1) 1, Scalar.clamp p.contrast (-1) 1,
    Scalar.clamp p.saturation (-1) 1, Scalar.clamp p.hue (-1) 1⟩

/-- The properties with their names, in the order of the fields. -/
def components (p : ColorProperty) : List (ColorComponent × Float) :=
  [(.brightness, p.brightness), (.contrast, p.contrast), (.saturation, p.saturation),
    (.hue, p.hue)]

/-- Whether a number lies between -1 and 1. -/
def inRange (x : Float) : Bool := decide (-1 ≤ x) && decide (x ≤ 1)

/-- The first property out of range is refused. -/
def validate (p : ColorProperty) : Except ColorError Unit :=
  match p.components.find? fun c => !inRange c.2 with
  | some (component, value) => .error (.outOfRange component value)
  | none => .ok ()

/-- Half a turn. -/
def halfTurn : Float := 3.141592653589793

/-- The terms of the fragment program. -/
def coefficients (p : ColorProperty) : ColorCoefficients :=
  let saturation := Scalar.clamp (p.saturation + 1) 0 2
  let angle := Scalar.clamp (p.hue * halfTurn) (-halfTurn) halfTurn
  { brightness := (Scalar.clamp p.brightness (-1) 1).toFloat32
    contrast := (Scalar.clamp (p.contrast + 1) 0 2).toFloat32
    satCos := (saturation * angle.cos).toFloat32
    satSin := (saturation * angle.sin).toFloat32 }

/-! ## Reading -/

/-- The number of one piece; blanks around it do not count. -/
def readPiece (piece : List Char) : Except ColorError Float :=
  match readNumber (Text.trim piece) with
  | .ok x => .ok x
  | .error defect => .error (.notANumber (String.ofList piece) defect)

/-- **The properties that a text stands for.** -/
def parse (text : String) : Except ColorError ColorProperty := do
  let values ← (Text.splitAt ',' text.toList).mapM readPiece
  match values with
  | [brightness, contrast, saturation, hue] =>
    let p : ColorProperty := ⟨brightness, contrast, saturation, hue⟩
    p.validate
    return p
  | _ => throw (.wrongCount values.length)

end ColorProperty

end Projector
