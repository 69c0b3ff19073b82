import Projector.Config.Json
import Projector.Proofs.Coordinates
import Projector.Proofs.FlagText
import Projector.Proofs.JsonText

/-!
# Configurations as texts

A configuration is written as an object with every setting in it, and the settings of an
object with all of them are those of the list of their values. So there is one statement
for each kind of value, what is written is read, and they are put together in the
order of the fields.

Numbers with a fraction are the exception. Not every one of them is read as the number
that it was written for, so for those of the configuration this is assumed. What is read is
valid in any case: a configuration that is not is refused.
-/

namespace Projector

open Json

namespace ConfigValue

/-! ## Texts -/

/-- A string of plain characters is these characters. -/
theorem characters?_map_char (s : List Char) : characters? (s.map .char) = some s := by
  induction s with
  | nil => rfl
  | cons c s ih =>
    rw [List.map_cons, characters?, ih]
    rfl

theorem text?_ofString (s : String) : text? (.ofString s) = some s.toList :=
  characters?_map_char s.toList

/-- **A set of flags** is read as it was written. -/
theorem flags?_write {table : List Flag} (readable : FlagSet.Readable table) (set : UInt32) :
    flags? table (.ofString (FlagSet.write table set)) = some set := by
  rw [flags?, text?_ofString]
  exact FlagSet.read?_write readable set

/-- **An integer of 32 bits** is read as it was written. -/
theorem int?_ofInt {n : Int} (least : -2147483648 ≤ n) (most : n < 2147483648) :
    int? (.ofInt n) = some n := by
  have small : n.natAbs ≤ UInt64.size / 2 := by
    have half : UInt64.size / 2 = 9223372036854775808 := rfl
    omega
  obtain ⟨spelling, x, same, parts, value⟩ := exists_ofInt small
  rw [same, int?, parts]
  simp [value, least, most]

/-- What is read as an integer is written as a number. -/
theorem legible_ofInt {n m : Int} (read : int? (.ofInt n) = some m) :
    (Value.ofInt n).Legible := by
  obtain ⟨k, number, -⟩ := Option.bind_eq_some_iff.1 read
  obtain ⟨x, parts, -⟩ := Option.bind_eq_some_iff.1 number
  exact .number parts

/-- **A list of so many values** is read as it was written if each of its elements is. -/
theorem list?_map {α : Type} {read? : Value → Option α} {write : α → Value} {xs : List α} {n : Nat}
    (length : xs.length = n) (read : ∀ x ∈ xs, read? (write x) = some x) :
    list? n read? (.list (xs.map write)) = some xs := by
  rw [list?, List.length_map, if_pos length]
  clear length
  induction xs with
  | nil => rfl
  | cons x xs ih =>
    obtain ⟨here, read⟩ := List.forall_mem_cons.1 read
    rw [List.map_cons, List.mapM_cons, here, ih read]
    rfl

/-! ## Records -/

section

variable {ρ : Type} {fields : List (RecordField ρ)}

/-- A field is found by its name, if no other one has it. -/
theorem find?_of_mem (distinct : (fields.map RecordField.name).Nodup) {f : RecordField ρ}
    (among : f ∈ fields) : (fields.find? fun g => g.name.toList == f.name.toList) = some f := by
  induction fields with
  | nil => cases among
  | cons g fields ih =>
    obtain ⟨other, distinct⟩ := List.nodup_cons.1 distinct
    obtain rfl | among := List.mem_cons.1 among
    · exact List.find?_cons_of_pos (beq_self_eq_true _)
    · rw [List.find?_cons_of_neg, ih distinct among]
      intro same
      have same : g.name = f.name := String.toList_inj.1 (eq_of_beq same)
      exact other (same ▸ List.mem_map_of_mem among)

/-- The members of some fields in their order are the values of these fields. -/
theorem readMembers?_eq (distinct : (fields.map RecordField.name).Nodup)
    {ps : List (RecordField ρ × Value)} (among : ∀ p ∈ ps, p.1 ∈ fields)
    (apart : ((ps.map Prod.fst).map RecordField.name).Nodup) {seen : List String}
    (new : ∀ p ∈ ps, p.1.name ∉ seen) (r : ρ) :
    readMembers? fields seen (ps.map fun p => (p.1.name.toList.map .char, p.2)) r =
      readList? (ps.map Prod.fst) (ps.map Prod.snd) r := by
  induction ps generalizing seen r with
  | nil => rfl
  | cons p ps ih =>
    obtain ⟨here, among⟩ := List.forall_mem_cons.1 among
    obtain ⟨first, new⟩ := List.forall_mem_cons.1 new
    obtain ⟨unlike, apart⟩ := List.nodup_cons.1 apart
    have unseen : seen.contains p.1.name = false := by simpa using first
    have new : ∀ q ∈ ps, q.1.name ∉ p.1.name :: seen := fun q hq => by
      rw [List.mem_cons, not_or]
      refine ⟨fun same => unlike ?_, new q hq⟩
      rw [← same]
      exact List.mem_map_of_mem (List.mem_map_of_mem hq)
    rw [List.map_cons, List.map_cons, List.map_cons, readMembers?, readList?,
      characters?_map_char, Option.bind_eq_bind, Option.bind_some, find?_of_mem distinct here]
    dsimp only
    rw [if_neg (Bool.eq_false_iff.1 unseen)]
    exact congrArg (Option.bind _) (funext fun r => ih among apart new r)

/-- **A record with all its fields** in their order is read as the list of its values. -/
theorem record?_ofMembers (distinct : (fields.map RecordField.name).Nodup) {values : List Value}
    (all : fields.length = values.length) (r : ρ) :
    record? fields r (.ofMembers ((fields.zip values).map fun p => (p.1.name, p.2))) =
      readList? fields values r := by
  have first : (fields.zip values).map Prod.fst = fields := List.map_fst_zip (Nat.le_of_eq all)
  have second : (fields.zip values).map Prod.snd = values :=
    List.map_snd_zip (Nat.le_of_eq all.symm)
  have read := readMembers?_eq distinct (fun p hp => (List.of_mem_zip hp).1)
    (first.symm ▸ distinct) (fun p _ => List.not_mem_nil) r
  rw [first, second] at read
  rw [Value.ofMembers, record?, List.map_map]
  exact read

/-- One field after the other. -/
theorem readList?_field {α : Type} {name : String} {read? : Value → Option α} {put : α → ρ → ρ}
    {v : Value} {a : α} (read : read? v = some a) (fs : List (RecordField ρ)) (vs : List Value)
    (r : ρ) : readList? (field name read? put :: fs) (v :: vs) r = readList? fs vs (put a r) := by
  show ((read? v).map fun a => put a r).bind (readList? fs vs) = _
  rw [read]
  rfl

end

end ConfigValue

open ConfigValue

/-! ## Numbers with a fraction -/

namespace ConfigValue

/-- What is read as a number is written as one. -/
theorem legible_ofFloat {x y : Float} (read : float? (ofFloat x) = some y) :
    (ofFloat x).Legible := by
  obtain ⟨n, parts, -⟩ := Option.bind_eq_some_iff.1 read
  exact .number parts

/-- What is read as a number is written as one, also in single precision. -/
theorem legible_ofFloat32 {x y : Float32} (read : float32? (ofFloat32 x) = some y) :
    (ofFloat32 x).Legible := by
  obtain ⟨n, parts, -⟩ := Option.bind_eq_some_iff.1 read
  exact .number parts

end ConfigValue

namespace ColorProperty

/-- A colour property in its range is finite. -/
theorem isFinite_of_inRange {x : Float} (h : inRange x = true) : x.isFinite = true := by
  rw [inRange, Bool.and_eq_true, decide_eq_true_eq, decide_eq_true_eq] at h
  have finite (y : Float) (h : y.isFinite = true) : y.toModel.unpack.isFinite = true := h
  exact Value.isFinite_of_le (finite (-1) (by decide +kernel)) (finite 1 (by decide +kernel))
    (of_decide_eq_true h.1) (of_decide_eq_true h.2)

/-- The properties that are not refused are in their range. -/
theorem inRange_of_validate {p : ColorProperty} (valid : p.validate = .ok ()) :
    ∀ x ∈ [p.brightness, p.contrast, p.saturation, p.hue], inRange x = true := by
  have all : ∀ c ∈ p.components, inRange c.2 = true := by
    unfold validate at valid
    split at valid
    · cases valid
    · next none => simpa using List.find?_eq_none.1 none
  simpa [components] using all

/-- **Colour properties are read as they were written.** -/
theorem record?_toJson {p : ColorProperty}
    (read : ∀ x ∈ [p.brightness, p.contrast, p.saturation, p.hue], float? (ofFloat x) = some x) :
    record? fields .neutral p.toJson = some p := by
  simp only [List.forall_mem_cons] at read
  obtain ⟨brightness, contrast, saturation, hue, -⟩ := read
  refine (@record?_ofMembers _ fields (by decide) [ofFloat p.brightness, ofFloat p.contrast,
    ofFloat p.saturation, ofFloat p.hue] rfl .neutral).trans ?_
  refine (readList?_field brightness _ _ _).trans ?_
  refine (readList?_field contrast _ _ _).trans ?_
  refine (readList?_field saturation _ _ _).trans ?_
  exact readList?_field hue _ _ _

/-- Colour properties can be read back. -/
theorem legible_toJson {p : ColorProperty}
    (read : ∀ x ∈ [p.brightness, p.contrast, p.saturation, p.hue], float? (ofFloat x) = some x) :
    p.toJson.Legible := by
  have names : ∀ name ∈ ["brightness", "contrast", "saturation", "hue"],
      Text.isPrinted name.toList = true := by decide
  simp only [List.forall_mem_cons] at read
  obtain ⟨brightness, contrast, saturation, hue, -⟩ := read
  refine .ofMembers names ?_
  simp only [List.forall_mem_cons]
  exact ⟨legible_ofFloat brightness, legible_ofFloat contrast, legible_ofFloat saturation,
    legible_ofFloat hue, List.forall_mem_nil _⟩

end ColorProperty

namespace RendererConfig

/-! ## Configurations -/

/-- The numbers with a fraction in double precision. -/
def doubles (c : RendererConfig) : List Float :=
  [c.aspectRatio, c.cropRatio, c.color.brightness, c.color.contrast, c.color.saturation,
    c.color.hue]

/-- **The finite numbers of a configuration are read as they were written.** -/
structure ReadsBack (c : RendererConfig) : Prop where
  /-- In double precision. -/
  double : ∀ x ∈ c.doubles, x.isFinite = true → float? (ofFloat x) = some x
  /-- In single precision. -/
  single : ∀ x ∈ c.clearColor.components, x.isFinite = true → float32? (ofFloat32 x) = some x

/-- A share is finite. -/
theorem isFinite_of_isShare {x : Float32} (h : isShare x = true) : x.isFinite = true := by
  rw [isShare, Bool.and_eq_true, decide_eq_true_eq, decide_eq_true_eq] at h
  have finite (y : Float32) (h : y.isFinite = true) : y.toModel.unpack.isFinite = true := h
  exact Value.isFinite_of_le (finite 0 (by decide +kernel)) (finite 1 (by decide +kernel))
    (of_decide_eq_true h.1) (of_decide_eq_true h.2)

/-- **The numbers of a valid configuration are finite.** -/
theorem isFinite_of_validate {c : RendererConfig} (valid : c.validate = .ok ()) :
    (∀ x ∈ c.doubles, x.isFinite = true) ∧
      ∀ x ∈ c.clearColor.components, x.isFinite = true := by
  unfold validate at valid
  cases color : c.color.validate with
  | error e =>
    rw [color] at valid
    cases valid
  | ok _ =>
    rw [color] at valid
    dsimp only at valid
    split at valid
    · cases valid
    next shares =>
    split at valid
    · cases valid
    next ratios =>
    rw [Bool.not_eq_true', Bool.not_eq_false, List.all_eq_true] at shares
    rw [Bool.not_eq_true', Bool.not_eq_false, Bool.and_eq_true] at ratios
    refine ⟨?_, fun x hx => isFinite_of_isShare (shares x hx)⟩
    refine List.forall_mem_cons.2 ⟨ratios.1, List.forall_mem_cons.2 ⟨ratios.2, fun x hx => ?_⟩⟩
    exact ColorProperty.isFinite_of_inRange (ColorProperty.inRange_of_validate color x hx)

/-- The values of the settings, in their order. -/
def values (c : RendererConfig) : List Value :=
  [ofFloat c.aspectRatio, ofFloat c.cropRatio,
    .ofString (FlagSet.write Alignment.flags c.alignment.bits),
    .list [.ofInt c.offsetX, .ofInt c.offsetY],
    .ofString (FlagSet.write Effects.flags c.effects.bits), c.color.toJson,
    .ofString c.colorSpace.name, .ofString c.colorRange.name, .bool c.osd,
    .list (c.clearColor.components.map ofFloat32)]

section

variable {c : RendererConfig} (read : ∀ x ∈ c.doubles, float? (ofFloat x) = some x)
  (read' : ∀ x ∈ c.clearColor.components, float32? (ofFloat32 x) = some x)
  (across : -2147483648 ≤ c.offsetX ∧ c.offsetX < 2147483648)
  (down : -2147483648 ≤ c.offsetY ∧ c.offsetY < 2147483648)

include read read' across down

/-- **A configuration is read from the values of its settings.** -/
theorem record?_toValue : record? fields standard c.toValue = some c := by
  obtain ⟨aspect, read⟩ := List.forall_mem_cons.1 read
  obtain ⟨crop, color⟩ := List.forall_mem_cons.1 read
  have offset : list? 2 int? (.list ([c.offsetX, c.offsetY].map .ofInt)) =
      some [c.offsetX, c.offsetY] :=
    list?_map rfl (List.forall_mem_cons.2 ⟨int?_ofInt across.1 across.2,
      List.forall_mem_singleton.2 (int?_ofInt down.1 down.2)⟩)
  have space : named? ColorSpace.name [.bt601, .bt709] (.ofString c.colorSpace.name) =
      some c.colorSpace := by
    cases c.colorSpace <;> decide
  have range : named? ColorRange.name [.limited, .full] (.ofString c.colorRange.name) =
      some c.colorRange := by
    cases c.colorRange <;> decide
  have osd : bool? (.bool c.osd) = some c.osd := rfl
  have clear : list? 4 float32? (.list (c.clearColor.components.map ofFloat32)) =
      some c.clearColor.components := list?_map rfl read'
  refine (@record?_ofMembers _ fields (by decide) c.values rfl standard).trans ?_
  refine (readList?_field aspect _ _ _).trans ?_
  refine (readList?_field crop _ _ _).trans ?_
  refine (readList?_field (flags?_write Alignment.readable_flags _) _ _ _).trans ?_
  refine (readList?_field offset _ _ _).trans ?_
  refine (readList?_field (flags?_write Effects.readable_flags _) _ _ _).trans ?_
  refine (readList?_field (ColorProperty.record?_toJson color) _ _ _).trans ?_
  refine (readList?_field space _ _ _).trans ?_
  refine (readList?_field range _ _ _).trans ?_
  refine (readList?_field osd _ _ _).trans ?_
  exact readList?_field clear _ _ _

/-- A configuration can be read back. -/
theorem legible_toValue : c.toValue.Legible := by
  obtain ⟨aspect, read⟩ := List.forall_mem_cons.1 read
  obtain ⟨crop, color⟩ := List.forall_mem_cons.1 read
  have names : ∀ name ∈ ["aspect_ratio", "crop_ratio", "alignment", "offset", "effects", "color",
      "color_space", "color_range", "osd", "clear_color"],
      Text.isPrinted name.toList = true := by decide
  have offset : ∀ v ∈ [Value.ofInt c.offsetX, Value.ofInt c.offsetY], v.Legible :=
    List.forall_mem_cons.2 ⟨legible_ofInt (int?_ofInt across.1 across.2),
      List.forall_mem_singleton.2 (legible_ofInt (int?_ofInt down.1 down.2))⟩
  have space : Text.isPrinted c.colorSpace.name.toList = true := by
    cases c.colorSpace <;> rfl
  have range : Text.isPrinted c.colorRange.name.toList = true := by
    cases c.colorRange <;> rfl
  have clear : ∀ v ∈ c.clearColor.components.map ofFloat32, v.Legible := fun v hv => by
    obtain ⟨x, hx, rfl⟩ := List.mem_map.1 hv
    exact legible_ofFloat32 (read' x hx)
  refine .ofMembers names ?_
  simp only [List.forall_mem_cons]
  exact ⟨legible_ofFloat aspect, legible_ofFloat crop,
    .ofString (FlagSet.printed_write Alignment.readable_flags _), .list offset,
    .ofString (FlagSet.printed_write Effects.readable_flags _),
    ColorProperty.legible_toJson color, .ofString space, .ofString range, .bool c.osd,
    .list clear, List.forall_mem_nil _⟩

end

/-- **A configuration is read as it was written**, if it is valid, its offsets are integers
of 32 bits and its finite numbers are read as they were written; and whatever the text,
a configuration that is read from it is valid. -/
theorem ofJson_toJson :
    (∀ c : RendererConfig, c.validate = .ok () →
      (-2147483648 ≤ c.offsetX ∧ c.offsetX < 2147483648) →
      (-2147483648 ≤ c.offsetY ∧ c.offsetY < 2147483648) → c.ReadsBack →
      ofJson c.toJson = .ok c) ∧
    ∀ (text : String) (c : RendererConfig), ofJson text = .ok c → c.validate = .ok () := by
  refine ⟨fun c valid across down back => ?_, fun text c h => ?_⟩
  · obtain ⟨finite, finite'⟩ := isFinite_of_validate valid
    have read : ∀ x ∈ c.doubles, float? (ofFloat x) = some x := fun x hx =>
      back.double x hx (finite x hx)
    have read' : ∀ x ∈ c.clearColor.components, float32? (ofFloat32 x) = some x := fun x hx =>
      back.single x hx (finite' x hx)
    have text : Value.parse? c.toJson = some c.toValue :=
      (legible_toValue read read' across down).parse?_render
    unfold ofJson
    rw [text, Option.bind_some, record?_toValue read read' across down]
    dsimp only
    rw [valid]
  · unfold ofJson at h
    split at h
    · cases h
    next d read =>
    split at h
    · cases h
    next valid =>
    cases h
    exact valid

/-- A configuration with bits that have no names, and offsets at both ends. -/
def farthest : RendererConfig where
  aspectRatio := 2.35
  cropRatio := 0
  alignment := ⟨0xffffffff⟩
  offsetX := -2147483648
  offsetY := 2147483647
  effects := ⟨0x80000045⟩
  color := ⟨-1, 0.25, 0, 1⟩
  colorSpace := .bt709
  colorRange := .full
  osd := false
  clearColor := ⟨0.5, 0, 0.1, 1⟩

theorem ofJson_toJson_farthest : farthest.validate = .ok () ∧ farthest.ReadsBack ∧
    ofJson farthest.toJson = .ok farthest := by
  have back : farthest.ReadsBack := by
    refine ⟨?_, ?_⟩
    · decide +kernel
    · decide +kernel
  exact ⟨rfl, back, ofJson_toJson.1 farthest rfl (by decide) (by decide) back⟩

end RendererConfig

end Projector
