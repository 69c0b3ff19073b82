/-!
# Scalars

The layout of a picture is a handful of additions, divisions and
comparisons, and it is worth saying once. What runs computes in binary
floating point, and in two widths of it: coordinates are single, ratios
are double. What is proved about the layout is a statement about numbers.
So the arithmetic is written over a carrier, `Scalar`, and a pair of
carriers, `Precision`, says how a coordinate becomes a ratio and back.

There are two pairs. `Float32` with `Float` is the one that runs. The
rational numbers, taken for both, are the one in which no step rounds.

A carrier may hold values that are no numbers. Two operations show it:
`larger` and `smaller` answer the other argument when one is no number,
and the comparisons are then false.
-/

namespace Projector

/-- **A carrier of layout arithmetic**: the four operations, an order that
can be decided, and the numbers nearest to the integers. -/
class Scalar (α : Type) extends Add α, Sub α, Mul α, Div α, BEq α, LT α, LE α where
  /-- The number nearest to a natural number. -/
  ofNat : Nat → α
  /-- The number nearest to an integer. -/
  ofInt : Int → α
  /-- The larger of two; of a number and a value that is none, the number. -/
  larger : α → α → α
  /-- The smaller of two; of a number and a value that is none, the number. -/
  smaller : α → α → α
  /-- The strict order is decided. -/
  decidableLT : DecidableLT α
  /-- The order is decided. -/
  decidableLE : DecidableLE α

attribute [reducible, instance] Scalar.decidableLT Scalar.decidableLE

/-- Numerals of a carrier are its nearest numbers. -/
instance (priority := low) Scalar.instOfNat (α : Type) [Scalar α] (n : Nat) : OfNat α n :=
  ⟨Scalar.ofNat n⟩

/-- **A narrow carrier beside a wide one.** Coordinates live in `S`,
ratios in `D`. -/
class Precision (S : Type) (D : outParam Type) [Scalar S] [Scalar D] where
  /-- The same number in the wide carrier. -/
  widen : S → D
  /-- The nearest number in the narrow carrier. -/
  narrow : D → S

/-! ## Binary floating point -/

/-- Single precision. A zero of either sign is as large as the other one,
and the first argument is kept then. -/
instance Float32.instScalar : Scalar Float32 where
  ofNat := Float32.ofNat
  ofInt := Float32.ofInt
  larger a b := if a.isNaN then b else if a < b then b else a
  smaller a b := if a.isNaN then b else if b < a then b else a
  decidableLT := inferInstance
  decidableLE := inferInstance

/-- Double precision. -/
instance Float.instScalar : Scalar Float where
  ofNat := Float.ofNat
  ofInt := Float.ofInt
  larger a b := if a.isNaN then b else if a < b then b else a
  smaller a b := if a.isNaN then b else if b < a then b else a
  decidableLT := inferInstance
  decidableLE := inferInstance

/-- **A number in another format**: the nearest one there, and of two the
one with an even mantissa. Zeros, infinities and the value that is no
number are in every format. -/
def rounded (format : Float.Model.Format) :
    Float.Model.UnpackedFloat → Float.Model.UnpackedFloat
  | .finite sign mantissa exponent _ => .round format sign mantissa exponent
  | special => special

-- The conversions of the carriers themselves are known to the compiler
-- only, and what is worked out with them could not be worked out in a proof.
instance Float32.instPrecision : Precision Float32 Float where
  widen a := .ofModel (.pack (rounded .binary64 a.toModel.unpack))
  narrow a := .ofModel (.pack (rounded .binary32 a.toModel.unpack))

/-! ## Exact arithmetic -/

/-- The rational numbers: no step rounds, and every value is a number. -/
instance Rat.instScalar : Scalar Rat where
  ofNat n := (n : Rat)
  ofInt n := (n : Rat)
  larger a b := if a < b then b else a
  smaller a b := if b < a then b else a
  decidableLT := inferInstance
  decidableLE := inferInstance

instance Rat.instPrecision : Precision Rat Rat where
  widen := id
  narrow := id

namespace Scalar

variable {α : Type} [Scalar α]

/-- `a` cut down to the range from `low` to `high`. A value that is no
number compares with neither end and stays. -/
def clamp (a low high : α) : α :=
  if a < low then low else if high < a then high else a

/-- The larger of two rationals is one of them and at least both. -/
theorem le_larger_rat (a b : Rat) : a ≤ larger a b ∧ b ≤ larger a b := by
  simp only [larger]
  split
  · exact ⟨Rat.le_of_lt ‹_›, Rat.le_refl⟩
  · exact ⟨Rat.le_refl, Rat.not_lt.mp ‹_›⟩

/-- The smaller of two rationals is at most both. -/
theorem smaller_le_rat (a b : Rat) : smaller a b ≤ a ∧ smaller a b ≤ b := by
  simp only [smaller]
  split
  · exact ⟨Rat.le_of_lt ‹_›, Rat.le_refl⟩
  · exact ⟨Rat.le_refl, Rat.not_lt.mp ‹_›⟩

end Scalar

end Projector
