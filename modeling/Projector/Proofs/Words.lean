import Projector.Text.Blank

/-!
# Words of a text

A text that is made of words, with a mark and blanks between them, is cut at the marks,
and the blanks are taken off the pieces. What is left are the words again, for no word has
a mark or a blank in it.

The digits of a number are one digit, or those of a smaller number and one more. What is
said of the digits that are written is said along this rule.
-/

namespace Projector

namespace Text

/-- **A word**: some characters, and none of them a blank or the mark. -/
def isWord (mark : Char) (s : List Char) : Bool :=
  !s.isEmpty && s.all fun c => !isBlank c && c != mark

/-- Whether there is no control character in a text. -/
def isPrinted (s : List Char) : Bool := s.all fun c => decide (0x20 ≤ c.toNat)

variable {mark : Char} {s : List Char}

theorem isWord_iff :
    isWord mark s = true ↔ s ≠ [] ∧ ∀ c ∈ s, isBlank c = false ∧ c ≠ mark := by
  simp [isWord]

theorem isPrinted_iff : isPrinted s = true ↔ ∀ c ∈ s, 0x20 ≤ c.toNat := by
  simp [isPrinted]

/-! ## Digits -/

/-- **An induction over the digits of a number.** -/
@[elab_as_elim]
theorem digits_induction {base : Nat} (wide : 1 < base) {motive : Nat → List Char → Prop}
    (one : ∀ n < base, motive n [n.digitChar])
    (more : ∀ n ds, base ≤ n → motive (n / base) ds → motive n (ds ++ [(n % base).digitChar]))
    (n : Nat) : motive n (Nat.toDigits base n) := by
  induction n using Nat.strongRecOn with
  | ind n ih =>
    obtain small | large := Nat.lt_or_ge n base
    · rw [Nat.toDigits_of_lt_base small]
      exact one n small
    · rw [Nat.toDigits_of_base_le wide large]
      exact more n _ large (ih (n / base) (Nat.div_lt_self (by omega) wide))

/-! ## Blanks -/

/-- No blank is dropped in front of a character that is none. -/
theorem dropWhile_isBlank (h : ∀ c ∈ s, isBlank c = false) : s.dropWhile isBlank = s := by
  cases s with
  | nil => rfl
  | cons c s =>
    exact List.dropWhile_cons_of_neg (Bool.eq_false_iff.1 (h c List.mem_cons_self))

/-- **A word between blanks** is left when they are taken off. -/
theorem trim_word (h : ∀ c ∈ s, isBlank c = false) {before after : List Char}
    (hb : ∀ c ∈ before, isBlank c = true) (ha : ∀ c ∈ after, isBlank c = true) (filled : s ≠ []) :
    trim (before ++ (s ++ after)) = s := by
  have start : (s ++ after).dropWhile isBlank = s ++ after := by
    obtain ⟨c, t, rfl⟩ := List.exists_cons_of_ne_nil filled
    exact List.dropWhile_cons_of_neg (Bool.eq_false_iff.1 (h c List.mem_cons_self))
  have back : (after.reverse ++ s.reverse).dropWhile isBlank = s.reverse := by
    rw [List.dropWhile_append_of_pos fun c hc => ha c (List.mem_reverse.1 hc)]
    exact dropWhile_isBlank fun c hc => h c (List.mem_reverse.1 hc)
  unfold trim
  rw [List.dropWhile_append_of_pos hb, start, List.reverse_append, back, List.reverse_reverse]

/-- **Only blanks are taken off.** -/
theorem any_trim (s : List Char) :
    ((trim s).any fun c => !isBlank c) = s.any fun c => !isBlank c := by
  have dropped (s : List Char) :
      ((s.dropWhile isBlank).any fun c => !isBlank c) = s.any fun c => !isBlank c := by
    rw [List.any_dropWhile, List.not_all_eq_any_not]
  rw [trim, List.any_reverse, dropped, List.any_reverse, dropped]

/-! ## Pieces -/

/-- A text without the mark is one piece. -/
theorem splitAt_of_not_mem (h : mark ∉ s) : splitAt mark s = [s] := by
  induction s with
  | nil => rfl
  | cons c s ih =>
    obtain ⟨other, rest⟩ := List.ne_and_not_mem_of_not_mem_cons h
    rw [splitAt, if_neg other.symm, ih rest]

/-- The first piece is what stands before the first mark. -/
theorem splitAt_append_cons (h : mark ∉ s) (t : List Char) :
    splitAt mark (s ++ mark :: t) = s :: splitAt mark t := by
  induction s with
  | nil => exact if_pos rfl
  | cons c s ih =>
    obtain ⟨other, rest⟩ := List.ne_and_not_mem_of_not_mem_cons h
    rw [List.cons_append, splitAt, if_neg other.symm, ih rest]

/-- **The words of a text** are its pieces without the blanks around them. -/
theorem map_trim_splitAt (solid : isBlank mark = false) {words : List (List Char)}
    (filled : words ≠ []) (h : ∀ w ∈ words, isWord mark w = true) {before : List Char}
    (hb : ∀ c ∈ before, isBlank c = true) :
    (splitAt mark (before ++ [' ', mark, ' '].intercalate words)).map trim = words := by
  have blank : ∀ c ∈ [' '], isBlank c = true := List.forall_mem_singleton.2 rfl
  induction words generalizing before with
  | nil => exact absurd rfl filled
  | cons word words ih =>
    obtain ⟨word', rest⟩ := List.forall_mem_cons.1 h
    obtain ⟨long, plain⟩ := isWord_iff.1 word'
    have bare : ∀ c ∈ word, isBlank c = false := fun c hc => (plain c hc).1
    have apart : mark ∉ before := fun among => Bool.false_ne_true (solid ▸ hb mark among)
    have whole : mark ∉ before ++ word := fun among =>
      (List.mem_append.1 among).elim apart fun among => (plain mark among).2 rfl
    cases words with
    | nil =>
      have same := trim_word bare hb (List.forall_mem_nil _) long
      rw [List.append_nil] at same
      rw [List.intercalate_singleton, splitAt_of_not_mem whole, List.map_singleton, same]
    | cons next words =>
      have text : before ++ [' ', mark, ' '].intercalate (word :: next :: words) =
          (before ++ (word ++ [' '])) ++
            mark :: ([' '] ++ [' ', mark, ' '].intercalate (next :: words)) := by
        simp
      have whole : mark ∉ before ++ (word ++ [' ']) := by
        rw [← List.append_assoc]
        refine fun among => (List.mem_append.1 among).elim whole fun among => ?_
        exact Bool.false_ne_true (solid ▸ blank mark among)
      rw [text, splitAt_append_cons whole, List.map_cons, trim_word bare hb blank long,
        ih (List.cons_ne_nil _ _) rest blank]

end Text

end Projector
