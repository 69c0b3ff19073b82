/-!
# Reading decimals

A decimal literal is a sign, digits with or without a point among them,
and a power of ten. Its value is the double nearest to it, whatever its
length; a literal beyond the greatest double is infinite, and a nonzero
one far below the least is zero.

`readNumber` reads the literals that people type: a sign of either kind is
allowed, digits may be missing on one side of the point, and the words for
values that are no numbers are read in any case.
-/

namespace Projector.Decimal

/-- **A decimal literal** `± digits · 10 ^ exponent`. -/
structure Literal where
  /-- Whether there is a minus sign. -/
  negative : Bool
  /-- The digits, as one number. -/
  digits : Nat
  /-- The power of ten. -/
  exponent : Int
  deriving DecidableEq, Repr

namespace Literal

/-- The double nearest to the digits. Every nonzero literal below
`10 ^ (-350)` rounds to zero, and one from `10 ^ 310` on is infinite, so no
greater power of ten is ever formed. -/
def magnitude (l : Literal) : Float :=
  let order := (Nat.toDigits 10 l.digits).length + l.exponent
  if l.digits = 0 || order < -350 then 0
  else if 310 < order then 1 / 0
  else Float.ofScientific l.digits (decide (l.exponent < 0)) l.exponent.natAbs

/-- **The double nearest to a literal.** -/
def toFloat (l : Literal) : Float := if l.negative then -l.magnitude else l.magnitude

end Literal

/-- The value of a run of decimal digits. -/
def digitsValue (ds : List Char) : Nat :=
  ds.foldl (fun n c => 10 * n + (c.toNat - '0'.toNat)) 0

/-- **Why a text is no number.** -/
inductive NumberDefect where
  /-- There is nothing to read. -/
  | nothing
  /-- What is there is no literal. -/
  | malformed
  deriving DecidableEq, Repr

/-- How a defect is described. -/
def NumberDefect.message : NumberDefect → String
  | nothing => "cannot parse float from empty string"
  | malformed => "invalid float literal"

/-- A sign in front of a text: whether it is a minus, and what follows. -/
def takeSign : List Char → Bool × List Char
  | '-' :: s => (true, s)
  | '+' :: s => (false, s)
  | s => (false, s)

/-- The words for values that are no finite numbers. -/
def wordValue? (s : List Char) : Option Float :=
  let word := s.map Char.toLower
  if word = "inf".toList || word = "infinity".toList then some (1 / 0)
  else if word = "nan".toList then some (0 / 0)
  else none

/-- The exponent at the end of a literal: a sign and at least one digit,
and nothing after them. -/
def readExponent? (s : List Char) : Option Int :=
  let (negative, ds) := takeSign s
  if ds.isEmpty || !ds.all Char.isDigit then none
  else some (if negative then -(digitsValue ds) else digitsValue ds)

/-- A literal without its sign: digits on at least one side of the point,
and an exponent if a letter announces one. -/
def readUnsigned? (s : List Char) : Option Literal := do
  let whole := s.takeWhile Char.isDigit
  let rest := s.dropWhile Char.isDigit
  let (part, rest) := match rest with
    | '.' :: t => (t.takeWhile Char.isDigit, t.dropWhile Char.isDigit)
    | t => ([], t)
  if whole.isEmpty && part.isEmpty then none
  let exponent ← match rest with
    | [] => some 0
    | c :: t => if c = 'e' || c = 'E' then readExponent? t else none
  return ⟨false, digitsValue (whole ++ part), exponent - part.length⟩

/-- **The number that a text stands for.** -/
def readNumber (s : List Char) : Except NumberDefect Float :=
  if s.isEmpty then .error .nothing
  else
    let (negative, rest) := takeSign s
    match wordValue? rest with
    | some x => .ok (if negative then -x else x)
    | none =>
      match readUnsigned? rest with
      | some l => .ok (Literal.toFloat { l with negative })
      | none => .error .malformed

end Projector.Decimal
