import Projector.Effects
import Projector.Geometry.Alignment
import Projector.Proofs.Words

/-!
# Sets of flags as texts

A set is written as a few words with bars between them, so a reader finds the same words.
The names that are written lie in the set, and together with the bits that remain
they cover it. So the union of what the words stand for is the set, whether its bits
have names, share names, or have none.
-/

namespace Projector

namespace FlagSet

/-! ## Bits -/

/-- **A set has a bit.** -/
def Has (set : UInt32) (i : Fin 32) : Prop := set.toBitVec.getLsbD i = true

section

variable {a b : UInt32} {i : Fin 32}

theorem not_has_zero : ¬ Has 0 i := by
  simp [Has]

theorem has_or : Has (a ||| b) i ↔ Has a i ∨ Has b i := by
  simp [Has]

theorem has_and : Has (a &&& b) i ↔ Has a i ∧ Has b i := by
  simp [Has]

theorem has_not : Has (~~~a) i ↔ ¬ Has a i := by
  simp [Has]

/-- Two sets with the same bits are one. -/
theorem eq_of_has (h : ∀ i, Has a i ↔ Has b i) : a = b := by
  refine UInt32.eq_of_toBitVec_eq (BitVec.eq_of_getLsbD_eq fun i small => ?_)
  exact Bool.eq_iff_iff.2 (h ⟨i, small⟩)

/-- A flag is in a set if all its bits are. -/
theorem has_of_contains (h : contains a b = true) (hb : Has b i) : Has a i := by
  have same : a &&& b = b := eq_of_beq h
  rw [← same, has_and] at hb
  exact hb.1

end

/-! ## Hexadecimal digits -/

theorem hexDigit?_digitChar : ∀ n < 16, hexDigit? n.digitChar = some n := by decide

/-- The digits of a number are collected to the number. -/
theorem foldlM_toDigits (n : Nat) :
    (Nat.toDigits 16 n).foldlM (fun n c => (16 * n + ·) <$> hexDigit? c) 0 = some n := by
  induction n using Text.digits_induction (show 1 < 16 by decide) with
  | one n small =>
    rw [List.foldlM_cons, hexDigit?_digitChar n small]
    simp
  | more n ds large ih =>
    rw [List.foldlM_append, ih, Option.bind_eq_bind, Option.bind_some, List.foldlM_cons,
      hexDigit?_digitChar _ (Nat.mod_lt n (by decide))]
    simp
    omega

/-- **What is read in hexadecimal** is what was written. -/
theorem readHexadecimal?_toDigits (bits : UInt32) :
    readHexadecimal? (Nat.toDigits 16 bits.toNat) = some bits := by
  have value := foldlM_toDigits bits.toNat
  have filled : (Nat.toDigits 16 bits.toNat).isEmpty = false :=
    List.isEmpty_eq_false_iff.2 Nat.toDigits_ne_nil
  unfold readHexadecimal?
  dsimp only
  split
  · -- a sign is no digit
    next digits =>
    rw [digits] at value
    cases value
  · rw [if_neg (Bool.eq_false_iff.1 filled), value]
    have small : bits.toNat < UInt32.size := bits.toNat_lt
    simp [small]

/-- Every digit is one of sixteen. -/
theorem exists_of_mem_toDigits {n : Nat} {c : Char} (h : c ∈ Nat.toDigits 16 n) :
    ∃ d < 16, c = d.digitChar := by
  induction n using Text.digits_induction (show 1 < 16 by decide) with
  | one n small => exact ⟨n, small, List.mem_singleton.1 h⟩
  | more n ds large ih =>
    obtain front | last := List.mem_append.1 h
    · exact ih front
    · exact ⟨n % 16, Nat.mod_lt n (by decide), List.mem_singleton.1 last⟩

theorem toList_hexadecimal (bits : UInt32) :
    (hexadecimal bits).toList = '0' :: 'x' :: Nat.toDigits 16 bits.toNat := by
  rw [hexadecimal, String.toList_append]
  exact congrArg (fun digits => '0' :: 'x' :: digits) String.toList_ofList

/-- A number in hexadecimal is a word. -/
theorem isWord_hexadecimal (bits : UInt32) :
    Text.isWord '|' (hexadecimal bits).toList = true := by
  have digits : ∀ d < 16, Text.isBlank d.digitChar = false ∧ d.digitChar ≠ '|' := by decide
  rw [toList_hexadecimal, Text.isWord_iff]
  refine ⟨List.cons_ne_nil _ _, List.forall_mem_cons.2 ⟨by decide, List.forall_mem_cons.2
    ⟨by decide, fun c hc => ?_⟩⟩⟩
  obtain ⟨d, small, rfl⟩ := exists_of_mem_toDigits hc
  exact digits d small

/-! ## Names -/

/-- **A table of names that can be read**: they are words, and each one is found with
its own bits. -/
structure Readable (table : List Flag) : Prop where
  /-- Every name is a word. -/
  words : ∀ flag ∈ table, Text.isWord '|' flag.name.toList = true
  /-- Every name stands for its bits. -/
  found : ∀ flag ∈ table, readPiece? table flag.name.toList = some flag.bits
  /-- No name has control characters. -/
  printed : ∀ flag ∈ table, Text.isPrinted flag.name.toList = true

variable {table : List Flag}

/-- The bits of one more piece. -/
def add? (table : List Flag) (set : UInt32) (piece : List Char) : Option UInt32 :=
  (set ||| ·) <$> readPiece? table piece

/-- The names that are written are among those of the table. -/
theorem exists_of_mem_names {set remaining : UInt32} {flags : List Flag} {name : String}
    (h : name ∈ (names set flags remaining).1) : ∃ flag ∈ flags, name = flag.name := by
  induction flags generalizing remaining with
  | nil => cases h
  | cons flag flags ih =>
    unfold names at h
    split at h
    · cases h
    split at h
    · obtain rfl | among := List.mem_cons.1 h
      · exact ⟨flag, List.mem_cons_self, rfl⟩
      · obtain ⟨other, among, same⟩ := ih among
        exact ⟨other, List.mem_cons_of_mem _ among, same⟩
    · obtain ⟨other, among, same⟩ := ih h
      exact ⟨other, List.mem_cons_of_mem _ among, same⟩

/-- **What the names stand for**, and what they leave: bits of the set, which cover
what was not covered yet but for the bits that are left. -/
theorem foldlM_names {flags : List Flag}
    (found : ∀ flag ∈ flags, readPiece? table flag.name.toList = some flag.bits)
    (set remaining start : UInt32) :
    ∃ covered, ((names set flags remaining).1.map String.toList).foldlM (add? table) start =
        some (start ||| covered) ∧ (∀ i, Has covered i → Has set i) ∧
      (∀ i, Has remaining i → Has covered i ∨ Has (names set flags remaining).2 i) ∧
      ∀ i, Has (names set flags remaining).2 i → Has remaining i := by
  induction flags generalizing remaining start with
  | nil =>
    refine ⟨0, ?_, fun i h => absurd h not_has_zero, fun i h => .inr h, fun i h => h⟩
    rw [UInt32.or_zero]
    rfl
  | cons flag flags ih =>
    obtain ⟨here, found⟩ := List.forall_mem_cons.1 found
    unfold names
    split
    · next none =>
      have none : remaining = 0 := eq_of_beq none
      refine ⟨0, ?_, fun i h => absurd h not_has_zero, fun i h => absurd (none ▸ h) not_has_zero,
        fun i h => absurd h not_has_zero⟩
      rw [UInt32.or_zero]
      rfl
    split
    · next written =>
      obtain ⟨covered, read, inside, covers, left⟩ :=
        ih found (remaining &&& ~~~flag.bits) (start ||| flag.bits)
      refine ⟨flag.bits ||| covered, ?_, fun i h => ?_, fun i h => ?_, fun i h => ?_⟩
      · have piece : add? table start flag.name.toList = some (start ||| flag.bits) := by
          rw [add?, here]
          rfl
        rw [List.map_cons, List.foldlM_cons, piece, Option.bind_eq_bind, Option.bind_some, read,
          UInt32.or_assoc]
      · obtain named | more := has_or.1 h
        · exact has_of_contains (Bool.and_eq_true_iff.1 written).1 named
        · exact inside i more
      · by_cases named : Has flag.bits i
        · exact .inl (has_or.2 (.inl named))
        · have rest := covers i (has_and.2 ⟨h, has_not.2 named⟩)
          exact rest.imp_left fun more => has_or.2 (.inr more)
      · exact (has_and.1 (left i h)).1
    · exact ih found remaining start

/-! ## Reading what was written -/

/-- **The pieces of a set stand for the set.** -/
theorem foldlM_pieces (readable : Readable table) (set : UInt32) :
    ((pieces table set).map String.toList).foldlM (add? table) 0 = some set := by
  obtain ⟨covered, read, inside, covers, left⟩ := foldlM_names readable.found set set 0
  rw [UInt32.zero_or] at read
  have whole : covered ||| (names set table set).2 = set := eq_of_has fun i => by
    rw [has_or]
    exact ⟨fun h => h.elim (inside i) (left i), covers i⟩
  unfold pieces
  dsimp only
  split
  · next none =>
    rw [eq_of_beq none, UInt32.or_zero] at whole
    rw [read, whole]
  · have last : add? table covered (hexadecimal (names set table set).2).toList = some set := by
      rw [toList_hexadecimal, add?, readPiece?, readHexadecimal?_toDigits, Option.map_eq_map,
        Option.map_some, whole]
    rw [List.map_append, List.foldlM_append, read, Option.bind_eq_bind, Option.bind_some,
      List.map_singleton, List.foldlM_cons, last]
    rfl

/-- A piece is the name of a flag, or the bits that no name covers. -/
theorem mem_pieces {set : UInt32} {piece : String} (h : piece ∈ pieces table set) :
    (∃ flag ∈ table, piece = flag.name) ∨ piece = hexadecimal (names set table set).2 := by
  unfold pieces at h
  dsimp only at h
  split at h
  · exact .inl (exists_of_mem_names h)
  · obtain name | last := List.mem_append.1 h
    · exact .inl (exists_of_mem_names name)
    · exact .inr (List.mem_singleton.1 last)

/-- Every piece is a word. -/
theorem isWord_of_mem_pieces (readable : Readable table) {set : UInt32} {piece : String}
    (h : piece ∈ pieces table set) : Text.isWord '|' piece.toList = true := by
  obtain ⟨flag, among, rfl⟩ | rfl := mem_pieces h
  · exact readable.words flag among
  · exact isWord_hexadecimal _

/-- **No control character is written.** -/
theorem printed_write (readable : Readable table) (set : UInt32) :
    Text.isPrinted (write table set).toList = true := by
  have digits : ∀ d < 16, 0x20 ≤ (Nat.digitChar d).toNat := by decide
  have marks := Text.isPrinted_iff.1 (show Text.isPrinted [' ', '|', ' '] = true from rfl)
  have piece : ∀ s ∈ pieces table set, ∀ c ∈ s.toList, 0x20 ≤ c.toNat := by
    intro s hs c hc
    obtain ⟨flag, among, rfl⟩ | rfl := mem_pieces hs
    · exact Text.isPrinted_iff.1 (readable.printed flag among) c hc
    · rw [toList_hexadecimal, List.mem_cons, List.mem_cons] at hc
      obtain rfl | rfl | digit := hc
      · decide
      · decide
      · obtain ⟨d, small, rfl⟩ := exists_of_mem_toDigits digit
        exact digits d small
  rw [Text.isPrinted_iff, write, String.toList_intercalate]
  generalize pieces table set = ps at piece
  induction ps with
  | nil => exact List.forall_mem_nil _
  | cons p ps ih =>
    obtain ⟨here, piece⟩ := List.forall_mem_cons.1 piece
    cases ps with
    | nil =>
      rw [List.map_singleton, List.intercalate_singleton]
      exact here
    | cons q ps =>
      rw [List.map_cons, List.map_cons, List.intercalate_cons_cons]
      intro c hc
      obtain (front | mark) | rest := (List.mem_append.1 hc).imp_left List.mem_append.1
      · exact here c front
      · exact marks c mark
      · exact ih piece c rest

/-- **A set is read as it was written**, whatever its bits are. -/
theorem read?_write (readable : Readable table) (set : UInt32) :
    read? table (write table set).toList = some set := by
  have value := foldlM_pieces readable set
  have text : (write table set).toList =
      [' ', '|', ' '].intercalate ((pieces table set).map String.toList) :=
    String.toList_intercalate
  have words : ∀ w ∈ (pieces table set).map String.toList, Text.isWord '|' w = true := by
    intro w hw
    obtain ⟨piece, among, rfl⟩ := List.mem_map.1 hw
    exact isWord_of_mem_pieces readable among
  rw [text]
  generalize (pieces table set).map String.toList = ws at value words
  cases ws with
  | nil =>
    rw [← value]
    rfl
  | cons w ws =>
    have pieces := Text.map_trim_splitAt (by decide) (List.cons_ne_nil w ws) words
      (List.forall_mem_nil _)
    obtain ⟨c, among⟩ :=
      List.exists_mem_of_ne_nil w (Text.isWord_iff.1 (words w List.mem_cons_self)).1
    have solid : (([' ', '|', ' '].intercalate (w :: ws)).any fun c => !Text.isBlank c) = true := by
      refine List.any_eq_true.2 ⟨c, ?_, ?_⟩
      · cases ws <;> simp [among]
      · rw [((Text.isWord_iff.1 (words w List.mem_cons_self)).2 c among).1]
        rfl
    have filled : ¬ (Text.trim ([' ', '|', ' '].intercalate (w :: ws))).isEmpty = true := by
      intro none
      rw [← Text.any_trim, List.isEmpty_iff.1 none] at solid
      cases solid
    unfold read?
    rw [if_neg filled]
    rw [List.nil_append] at pieces
    rw [← pieces, List.foldlM_map] at value
    exact value

end FlagSet

/-! ## The tables -/

theorem Alignment.readable_flags : FlagSet.Readable flags :=
  ⟨by decide, by decide, by decide⟩

theorem Effects.readable_flags : FlagSet.Readable flags :=
  ⟨by decide, by decide, by decide⟩

end Projector
