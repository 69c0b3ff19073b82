import Projector.Scalar

/-!
# JSON numbers

A number is an integer part, perhaps a fraction, perhaps an exponent. An
integer that fits into a word of 64 bits is an *integer*; zero with a
minus sign is not, for integers have no such zero. Everything else is read
as a double: as many digits as fit into a word are collected, and the
result is multiplied with, or divided by, one power of ten. Digits that do
not fit are dropped, and a value beyond all doubles is refused.
-/

namespace Projector.Json

/-- **A number by its parts.** -/
structure Number where
  /-- Whether there is a minus sign. -/
  negative : Bool
  /-- The digits of the integer part. -/
  whole : List Char
  /-- The digits of the fraction. -/
  fraction : List Char
  /-- The exponent. -/
  exponent : Option Int
  deriving DecidableEq, Repr

/-- Whether a character can occur in a number. -/
def isNumberChar (c : Char) : Bool :=
  c.isDigit || c == '-' || c == '+' || c == '.' || c == 'e' || c == 'E'

/-- The value of a digit. -/
def digitValue (c : Char) : Nat := c.toNat - '0'.toNat

namespace Number

/-- The exponent at the end of a number: a sign and at least one digit. -/
def readExponent? (s : List Char) : Option Int :=
  let (negative, ds) : Bool × List Char := match s with
    | '-' :: t => (true, t)
    | '+' :: t => (false, t)
    | t => (false, t)
  if ds.isEmpty || !ds.all Char.isDigit then none
  else
    let n := ds.foldl (fun n c => 10 * n + digitValue c) 0
    some (if negative then -n else n)

/-- **The parts of a spelling.** The integer part has no leading zero, and
a point is followed by a digit. -/
def ofSpelling? (spelling : List Char) : Option Number := do
  let (negative, s) : Bool × List Char := match spelling with
    | '-' :: t => (true, t)
    | t => (false, t)
  let whole := s.takeWhile Char.isDigit
  let rest := s.dropWhile Char.isDigit
  if whole.isEmpty || (whole.length ≠ 1 && whole.head? == some '0') then none
  let (fraction, rest) ← match rest with
    | '.' :: t =>
      let ds := t.takeWhile Char.isDigit
      if ds.isEmpty then none else some (ds, t.dropWhile Char.isDigit)
    | t => some ([], t)
  match rest with
  | [] => some ⟨negative, whole, fraction, none⟩
  | c :: t =>
    if c = 'e' || c = 'E' then
      (readExponent? t).map fun e => ⟨negative, whole, fraction, some e⟩
    else none

/-- Digits collected behind a number, as long as a word holds it; and how
many digits are left. -/
def collect (n : Nat) : List Char → Nat × Nat
  | [] => (n, 0)
  | c :: cs =>
    let next := 10 * n + digitValue c
    if next < UInt64.size then collect next cs else (n, cs.length + 1)

/-- **The number as an integer**, if it is one that a word holds. -/
def toInt? (x : Number) : Option Int :=
  if !x.fraction.isEmpty || x.exponent.isSome then none
  else
    match collect 0 x.whole with
    | (n, 0) =>
      if x.negative then if n = 0 ∨ UInt64.size / 2 < n then none else some (-n) else some n
    | _ => none

/-- A power of ten up to `10 ^ 308`. -/
def powerOfTen (n : Nat) : Float := Float.ofScientific 1 false n

/-- A double times a power of ten, if it is finite. Below `10 ^ (-308)`
the power is taken in two steps, and below twice that nothing is left. -/
def scale? (x : Float) (e : Int) : Option Float :=
  if 0 ≤ e then
    if x == 0 then some 0
    else if 308 < e then none
    else
      let y := x * powerOfTen e.toNat
      if y.isInf then none else some y
  else if -308 ≤ e then some (x / powerOfTen (-e).toNat)
  else if -616 ≤ e then some (x / powerOfTen 308 / powerOfTen (-e - 308).toNat)
  else some 0

/-- The number without its sign, as a double. -/
def magnitude? (x : Number) : Option Float :=
  let (n, wholeLeft) := collect 0 x.whole
  let (n, fractionLeft) := collect n x.fraction
  let collected : Int := x.fraction.length - fractionLeft
  scale? (Float.ofNat n) (wholeLeft - collected + x.exponent.getD 0)

/-- **The number as a double**, if it is not beyond all doubles. -/
def toFloat? (x : Number) : Option Float :=
  x.magnitude?.map fun m => if x.negative then -m else m

/-- **The number as a single.** An integer is rounded once, and any other
number first to a double. -/
def toFloat32? (x : Number) : Option Float32 :=
  match x.toInt? with
  | some n => some (Float32.ofInt n)
  | none => x.toFloat?.map Precision.narrow

end Number

end Projector.Json
