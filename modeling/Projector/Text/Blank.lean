/-!
# Blanks

The characters of the property white space, and a text without the blanks
at its two ends.
-/

namespace Projector.Text

/-- **White space**: the code points that have the property. -/
def isBlank (c : Char) : Bool :=
  let n := c.toNat
  (9 ≤ n && n ≤ 13) || n == 0x20 || n == 0x85 || n == 0xa0 || n == 0x1680 ||
    (0x2000 ≤ n && n ≤ 0x200a) || n == 0x2028 || n == 0x2029 || n == 0x202f || n == 0x205f ||
    n == 0x3000

/-- A text without the blanks at its ends. -/
def trim (s : List Char) : List Char :=
  ((s.dropWhile isBlank).reverse.dropWhile isBlank).reverse

/-- The pieces of a text between the occurrences of a character. There is
one piece more than there are occurrences. -/
def splitAt (mark : Char) : List Char → List (List Char)
  | [] => [[]]
  | c :: s =>
    if c = mark then [] :: splitAt mark s
    else match splitAt mark s with
      | [] => [[c]]
      | piece :: pieces => (c :: piece) :: pieces

/-- Splitting leaves at least one piece. -/
theorem splitAt_ne_nil (mark : Char) (s : List Char) : splitAt mark s ≠ [] := by
  cases s with
  | nil => simp [splitAt]
  | cons c s =>
    rw [splitAt]
    split
    · simp
    · split <;> simp

/-- The pieces, with the mark between them, are the text. -/
theorem intercalate_splitAt (mark : Char) (s : List Char) :
    [mark].intercalate (splitAt mark s) = s := by
  induction s with
  | nil => rfl
  | cons c s ih =>
    rw [splitAt]
    split
    · next h =>
      obtain ⟨p, ps, hp⟩ := List.exists_cons_of_ne_nil (splitAt_ne_nil mark s)
      rw [hp] at ih ⊢
      rw [h]
      cases ps <;> simp_all [List.intercalate, List.intersperse]
    · split
      · next h => exact absurd h (splitAt_ne_nil mark s)
      · next p ps hp =>
        rw [hp] at ih
        cases ps <;> simp_all [List.intercalate, List.intersperse]

end Projector.Text
