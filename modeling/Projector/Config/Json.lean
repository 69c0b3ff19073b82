import Projector.Config.Basic
import Projector.Decimal.Style
import Projector.Json.Reader

/-!
# Configurations in files

A configuration is kept as an object with a member for each setting. A
member that is missing has its default, and one that is unknown does not
count; a setting that is there twice is refused. Instead of an object
there may be a list of the settings in their order, and its missing tail
has the defaults.

Sets of flags are kept as texts, and the colour space and the range by
their names. Every setting is written, and what is written for a valid
configuration is read as that configuration.
-/

namespace Projector

open Json

namespace ConfigValue

/-! ## Reading values -/

/-- A double. -/
def float? : Value → Option Float
  | .number spelling => (Number.ofSpelling? spelling).bind Number.toFloat?
  | _ => none

/-- A single. -/
def float32? : Value → Option Float32
  | .number spelling => (Number.ofSpelling? spelling).bind Number.toFloat32?
  | _ => none

/-- An integer of 32 bits. -/
def int? : Value → Option Int
  | .number spelling => do
    let n ← (Number.ofSpelling? spelling).bind Number.toInt?
    if -2147483648 ≤ n ∧ n < 2147483648 then some n else none
  | _ => none

/-- A truth value. -/
def bool? : Value → Option Bool
  | .bool b => some b
  | _ => none

/-- A text. -/
def text? : Value → Option (List Char)
  | .text parts => characters? parts
  | _ => none

/-- A set of flags. -/
def flags? (table : List Flag) (v : Value) : Option UInt32 := (text? v).bind (FlagSet.read? table)

/-- One of several values by its name: the name alone, or as the one member
of an object, with nothing in it. -/
def named? {α : Type} (name : α → String) (all : List α) (v : Value) : Option α := do
  let s ← match v with
    | .object [(parts, .null)] => characters? parts
    | v => text? v
  all.find? fun a => (name a).toList == s

/-- A list of so many elements. -/
def list? {α : Type} (n : Nat) (read? : Value → Option α) : Value → Option (List α)
  | .list items => if items.length = n then items.mapM read? else none
  | _ => none

/-! ## Reading records -/

/-- **A field of a record**: its name, and how a value changes the
record. -/
structure RecordField (ρ : Type) where
  /-- The name. -/
  name : String
  /-- The record with the value in it, if the value is of the right kind. -/
  put? : Value → ρ → Option ρ

/-- The fields of a list taken in order. There may be fewer elements than
fields. -/
def readList? {ρ : Type} : List (RecordField ρ) → List Value → ρ → Option ρ
  | _, [], r => some r
  | [], _ :: _, _ => none
  | f :: fs, v :: vs, r => (f.put? v r).bind (readList? fs vs)

/-- The members of an object taken in order, with the names of the fields
that were there already. -/
def readMembers? {ρ : Type} (fields : List (RecordField ρ)) :
    List String → List (List Part × Value) → ρ → Option ρ
  | _, [], r => some r
  | seen, (parts, v) :: ms, r => do
    let name ← characters? parts
    match fields.find? fun f => f.name.toList == name with
    | none => readMembers? fields seen ms r
    | some f =>
      if seen.contains f.name then none
      else readMembers? fields (f.name :: seen) ms (← f.put? v r)

/-- **A record**, with what it has when a field is missing. -/
def record? {ρ : Type} (fields : List (RecordField ρ)) (otherwise : ρ) : Value → Option ρ
  | .list items => readList? fields items otherwise
  | .object members => readMembers? fields [] members otherwise
  | _ => none

/-- A field that takes one value. -/
def field {ρ α : Type} (name : String) (read? : Value → Option α) (put : α → ρ → ρ) :
    RecordField ρ :=
  ⟨name, fun v r => (read? v).map fun a => put a r⟩

/-! ## Writing values -/

/-- A double. -/
def ofFloat (x : Float) : Value :=
  .number ((Decimal.NumberStyle.json (-5) 15).double x).toList

/-- A single. -/
def ofFloat32 (x : Float32) : Value :=
  .number ((Decimal.NumberStyle.json (-6) 12).single x).toList

end ConfigValue

open ConfigValue

namespace ColorProperty

/-- The fields of colour properties. -/
def fields : List (RecordField ColorProperty) :=
  [field "brightness" float? fun x c => { c with brightness := x },
   field "contrast" float? fun x c => { c with contrast := x },
   field "saturation" float? fun x c => { c with saturation := x },
   field "hue" float? fun x c => { c with hue := x }]

/-- Colour properties as a value. -/
def toJson (c : ColorProperty) : Value :=
  .ofMembers [("brightness", ofFloat c.brightness), ("contrast", ofFloat c.contrast),
    ("saturation", ofFloat c.saturation), ("hue", ofFloat c.hue)]

end ColorProperty

namespace RendererConfig

/-- A pair of offsets. -/
def putOffset (offset : List Int) (c : RendererConfig) : RendererConfig :=
  match offset with
  | [x, y] => { c with offsetX := x, offsetY := y }
  | _ => c

/-- The four components of a colour. -/
def putClearColor (components : List Float32) (c : RendererConfig) : RendererConfig :=
  match components with
  | [red, green, blue, alpha] => { c with clearColor := ⟨red, green, blue, alpha⟩ }
  | _ => c

/-- **The fields of a configuration**, in their order. -/
def fields : List (RecordField RendererConfig) :=
  [field "aspect_ratio" float? fun x c => { c with aspectRatio := x },
   field "crop_ratio" float? fun x c => { c with cropRatio := x },
   field "alignment" (flags? Alignment.flags) fun x c => { c with alignment := ⟨x⟩ },
   field "offset" (list? 2 int?) putOffset,
   field "effects" (flags? Effects.flags) fun x c => { c with effects := ⟨x⟩ },
   field "color" (record? ColorProperty.fields .neutral) fun x c => { c with color := x },
   field "color_space" (named? ColorSpace.name [.bt601, .bt709]) fun x c =>
     { c with colorSpace := x },
   field "color_range" (named? ColorRange.name [.limited, .full]) fun x c =>
     { c with colorRange := x },
   field "osd" bool? fun x c => { c with osd := x },
   field "clear_color" (list? 4 float32?) putClearColor]

/-- A configuration as a value. -/
def toValue (c : RendererConfig) : Value :=
  .ofMembers [("aspect_ratio", ofFloat c.aspectRatio), ("crop_ratio", ofFloat c.cropRatio),
    ("alignment", .ofString (FlagSet.write Alignment.flags c.alignment.bits)),
    ("offset", .list [.ofInt c.offsetX, .ofInt c.offsetY]),
    ("effects", .ofString (FlagSet.write Effects.flags c.effects.bits)),
    ("color", c.color.toJson), ("color_space", .ofString c.colorSpace.name),
    ("color_range", .ofString c.colorRange.name), ("osd", .bool c.osd),
    ("clear_color", .list (c.clearColor.components.map ofFloat32))]

/-- **A configuration as a text.** -/
def toJson (c : RendererConfig) : String := c.toValue.render

/-- **The configuration of a text**, which must be valid. -/
def ofJson (text : String) : Except Error RendererConfig :=
  match (Value.parse? text).bind (record? fields standard) with
  | none => .error (.config .malformed)
  | some c =>
    match c.validate with
    | .error e => .error (.config e)
    | .ok () => .ok c

/-- **The configuration of a file**, given by what reading the file
answers. -/
def load (file : Except FileError ByteArray) : Except Error RendererConfig :=
  match file with
  | .error e => .error (.file e)
  | .ok bytes =>
    match String.fromUTF8? bytes with
    | none => .error (.file .notText)
    | some text => ofJson text

end RendererConfig

end Projector
