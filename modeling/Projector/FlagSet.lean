import Projector.Decimal.Reader
import Projector.Text.Blank

/-!
# Flag sets

A set of flags is a word of 32 bits. Some bits have names, a name may
stand for several bits, and a word may hold bits without a name, which are
kept.

A set is written as the names of its flags, in the order in which they
were declared, with a bar between them. A name is written when all its
bits are in the set and it still adds one, so a group declared after its
members is never written. Bits that no name covers follow as one
hexadecimal number. Reading takes any names and hexadecimal numbers, in
any order, and collects their bits.
-/

namespace Projector

/-- **A name for bits of a set.** -/
structure Flag where
  /-- The name. -/
  name : String
  /-- The bits. -/
  bits : UInt32
  deriving DecidableEq, Repr

namespace FlagSet

/-- Whether a set has every bit of a flag. -/
def contains (set flag : UInt32) : Bool := set &&& flag == flag

/-- Whether two sets share a bit. -/
def meets (a b : UInt32) : Bool := a &&& b != 0

/-- **The names that a set is written with**, given the bits that are not
covered yet, and the bits that no name covers. -/
def names (set : UInt32) : List Flag → UInt32 → List String × UInt32
  | [], remaining => ([], remaining)
  | flag :: flags, remaining =>
    if remaining == 0 then ([], 0)
    else if contains set flag.bits && meets remaining flag.bits then
      let (rest, left) := names set flags (remaining &&& ~~~flag.bits)
      (flag.name :: rest, left)
    else names set flags remaining

/-- A word in hexadecimal, after its mark. -/
def hexadecimal (bits : UInt32) : String :=
  "0x" ++ String.ofList (Nat.toDigits 16 bits.toNat)

/-- The pieces of a written set. -/
def pieces (table : List Flag) (set : UInt32) : List String :=
  let (written, left) := names set table set
  if left == 0 then written else written ++ [hexadecimal left]

/-- **The text of a set**: its pieces with bars between them. -/
def write (table : List Flag) (set : UInt32) : String := " | ".intercalate (pieces table set)

/-- The text of a set in a message, where the empty one is a zero. -/
def describe (table : List Flag) (set : UInt32) : String :=
  if set == 0 then "0x0" else write table set

/-- The value of one hexadecimal digit, of either case. -/
def hexDigit? (c : Char) : Option Nat :=
  if c.isDigit then some (c.toNat - '0'.toNat)
  else if 'a' ≤ c && c ≤ 'f' then some (c.toNat - 'a'.toNat + 10)
  else if 'A' ≤ c && c ≤ 'F' then some (c.toNat - 'A'.toNat + 10)
  else none

/-- A word written in hexadecimal: at least one digit, perhaps after a
plus sign, and no more than a word can hold. -/
def readHexadecimal? (s : List Char) : Option UInt32 := do
  let ds := match s with
    | '+' :: t => t
    | t => t
  if ds.isEmpty then none
  let n ← ds.foldlM (fun n c => (16 * n + ·) <$> hexDigit? c) 0
  if n < UInt32.size then some (UInt32.ofNat n) else none

/-- The bits of one piece: a hexadecimal number or a name. -/
def readPiece? (table : List Flag) (s : List Char) : Option UInt32 :=
  match s with
  | '0' :: 'x' :: ds => readHexadecimal? ds
  | _ => (table.find? fun flag => flag.name.toList == s).map Flag.bits

/-- **The set that a text stands for.** Blanks around a piece do not
count; a text of blanks alone is the empty set. -/
def read? (table : List Flag) (s : List Char) : Option UInt32 :=
  if (Text.trim s).isEmpty then some 0
  else
    (Text.splitAt '|' s).foldlM
      (fun set piece => (set ||| ·) <$> readPiece? table (Text.trim piece)) 0

end FlagSet

end Projector
