/-!
# Shortest decimals

A binary fraction stands for an interval of reals: all those that round to
it. Of the decimals in that interval some have the fewest digits, and of
these some lie nearest to the fraction itself. That decimal is what a
number is written as, whatever the layout of the digits.

The choice is made in natural numbers. A finite number is `m · 2 ^ q`; its
interval reaches two quarters of a unit up and, just above a power of two,
only one quarter down. Multiples of a power of ten are compared with the
ends by multiplying out, so nothing rounds. The search goes from coarse
powers of ten to fine ones and tries the two neighbours of the number on
each: if any multiple lies in the interval, a neighbour does.
-/

namespace Projector.Decimal

/-! ## Binary formats -/

/-- **A format of binary fractions**: how many bits its fields have. -/
structure BinaryFormat where
  /-- Bits of the mantissa that are stored. -/
  mantissaBits : Nat
  /-- Bits of the exponent. -/
  exponentBits : Nat
  deriving DecidableEq, Repr

namespace BinaryFormat

/-- Fractions of 32 bits. -/
def single : BinaryFormat := ⟨23, 8⟩

/-- Fractions of 64 bits. -/
def double : BinaryFormat := ⟨52, 11⟩

end BinaryFormat

/-- **A positive binary fraction** `mantissa · 2 ^ exponent`. -/
structure Fraction where
  /-- The integer factor. -/
  mantissa : Nat
  /-- The power of two. -/
  exponent : Int
  /-- Whether the next fraction below is half as far away as the next one
  above, as it is at a power of two. -/
  closeBelow : Bool
  deriving DecidableEq, Repr

/-- **What a bit pattern stands for.** -/
inductive Reading where
  /-- No number. -/
  | undefined
  /-- Beyond all numbers, on one side. -/
  | infinite (negative : Bool)
  /-- Zero, with its sign. -/
  | zero (negative : Bool)
  /-- Any other number. -/
  | finite (negative : Bool) (magnitude : Fraction)
  deriving DecidableEq, Repr

/-- The reading of a bit pattern: the sign bit, a biased exponent, and the
mantissa without its leading one. The least exponent has no leading one,
and the greatest one marks the patterns that are no numbers. -/
def BinaryFormat.read (format : BinaryFormat) (bits : Nat) : Reading :=
  let unit := Nat.pow 2 format.mantissaBits
  let stored := bits % unit
  let exponents := Nat.pow 2 format.exponentBits
  let biased := bits / unit % exponents
  let negative := bits / unit / exponents % 2 = 1
  let least : Int := 2 - (exponents / 2 : Nat) - format.mantissaBits
  if biased = exponents - 1 then
    if stored = 0 then .infinite negative else .undefined
  else if biased = 0 then
    if stored = 0 then .zero negative else .finite negative ⟨stored, least, false⟩
  else
    .finite negative ⟨unit + stored, least + (biased - 1 : Nat), stored = 0 ∧ 1 < biased⟩

/-! ## The choice of digits -/

/-- **A decimal** `digits · 10 ^ exponent`. -/
structure Digits where
  /-- The digits, as one number. -/
  digits : Nat
  /-- The power of ten. -/
  exponent : Int
  deriving DecidableEq, Repr

namespace Fraction

/-- One step of the grid of powers `10 ^ k`, and one quarter of the
fraction's unit, over a common denominator. -/
def scales (f : Fraction) (k : Int) : Nat × Nat :=
  (Nat.pow 10 k.toNat * Nat.pow 2 (2 - f.exponent).toNat,
   Nat.pow 2 (f.exponent - 2).toNat * Nat.pow 10 (-k).toNat)

/-- **Whether `c · 10 ^ k` rounds to the fraction.** The ends of the
interval belong to it when the mantissa is even. -/
def roundsTo (f : Fraction) (k : Int) (c : Nat) : Bool :=
  let (step, quarter) := f.scales k
  let low := (4 * f.mantissa - if f.closeBelow then 1 else 2) * quarter
  let high := (4 * f.mantissa + 2) * quarter
  let x := c * step
  if f.mantissa % 2 = 0 then low ≤ x && x ≤ high else low < x && x < high

/-- **The multiple of `10 ^ k` that rounds to the fraction and lies nearest
to it**, if one does. Of two at the same distance `tieUp` takes the upper
one, and otherwise the even one is taken. -/
def nearestOn? (f : Fraction) (tieUp : Bool) (k : Int) : Option Nat :=
  let (step, quarter) := f.scales k
  let value := 4 * f.mantissa * quarter
  let below := value / step
  let above := below + 1
  match decide (0 < below) && f.roundsTo k below, f.roundsTo k above with
  | false, false => none
  | true, false => some below
  | false, true => some above
  | true, true =>
    let twice := 2 * value
    let sum := (below + above) * step
    if twice < sum then some below
    else if sum < twice then some above
    else if tieUp || below % 2 = 1 then some above
    else some below

/-- A power of ten above the fraction. -/
def scale (f : Fraction) : Int :=
  ((f.mantissa.log2 + 1 : Nat) + f.exponent) * 30103 / 100000 + 1

/-- The fraction itself, written out. -/
def exactDigits (f : Fraction) : Digits :=
  if 0 ≤ f.exponent then ⟨f.mantissa * Nat.pow 2 f.exponent.toNat, 0⟩
  else ⟨f.mantissa * Nat.pow 5 (-f.exponent).toNat, f.exponent⟩

/-- **The shortest decimal of a fraction**, and of those the nearest one.
Twenty powers of ten below its scale are enough for a mantissa of 53 bits;
beyond them the fraction would be written out. -/
def shortest (f : Fraction) (tieUp : Bool) : Digits :=
  let onGrid (i : Nat) : Option Digits :=
    let k := f.scale - i
    (f.nearestOn? tieUp k).map fun c => ⟨c, k⟩
  ((List.range 20).findSome? onGrid).getD f.exactDigits

end Fraction

end Projector.Decimal
