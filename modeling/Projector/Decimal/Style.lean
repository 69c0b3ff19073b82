import Projector.Decimal.Shortest

/-!
# Number styles

The digits of a number are settled by `Fraction.shortest`. What a text
does with them is a matter of style: from where on an exponent is
written, whether an integer shows a decimal point, which words stand for
values that are no numbers. A `NumberStyle` holds these decisions, and
three of them are in use: `NumberStyle.plain` for numbers inside a
sentence, `NumberStyle.pointed` for values shown to a programmer, and two
ranges of `NumberStyle.json` for files.
-/

namespace Projector.Decimal

/-- **How the digits of a number are laid out.** -/
structure NumberStyle where
  /-- Least exponent of the first digit that is written without an exponent;
  `none` if there is none. -/
  leastPlain : Option Int
  /-- Greatest such exponent. -/
  greatestPlain : Option Int
  /-- Whether an integer is written with a point and a zero. -/
  pointZero : Bool
  /-- Whether a positive exponent has a sign. -/
  plusSign : Bool
  /-- Whether the upper of two equally near decimals is taken. -/
  tieUp : Bool
  /-- What stands for the value above all numbers. -/
  infinity : String
  /-- What stands for the value below all numbers. -/
  minusInfinity : String
  /-- What stands for a value that is no number. -/
  undefined : String

namespace NumberStyle

/-- Numbers inside a sentence: no exponent ever, and no point in integers. -/
def plain : NumberStyle := ⟨none, none, false, false, true, "inf", "-inf", "NaN"⟩

/-- Values shown to a programmer: a point always, and an exponent below
`10 ^ (-4)` and from `10 ^ 16` on. -/
def pointed : NumberStyle := ⟨some (-4), some 15, true, false, true, "inf", "-inf", "NaN"⟩

/-- Numbers of a file: a point always, a signed exponent outside the given
range, and `null` for what is no number. -/
def json (least greatest : Int) : NumberStyle :=
  ⟨some least, some greatest, true, true, false, "null", "null", "null"⟩

/-- Whether a number whose first digit stands for `10 ^ e` is written
without an exponent. -/
def isPlain (style : NumberStyle) (e : Int) : Bool :=
  (style.leastPlain.all fun least => least ≤ e) && (style.greatestPlain.all fun most => e ≤ most)

/-- Digits with the point after the digit for `10 ^ 0`. -/
def layPlain (style : NumberStyle) (ds : List Char) (e : Int) : List Char :=
  let tail := if style.pointZero then ['.', '0'] else []
  if e < 0 then
    '0' :: '.' :: List.replicate (-e - 1).toNat '0' ++ ds
  else
    let whole := e.toNat + 1
    if ds.length ≤ whole then ds ++ List.replicate (whole - ds.length) '0' ++ tail
    else ds.take whole ++ '.' :: ds.drop whole

/-- Digits with the point after the first one, and the exponent `e`. -/
def layScientific (style : NumberStyle) (ds : List Char) (e : Int) : List Char :=
  let point := if ds.length ≤ 1 then ds else ds.take 1 ++ '.' :: ds.drop 1
  let sign := if e < 0 then ['-'] else if style.plusSign then ['+'] else []
  point ++ 'e' :: sign ++ Nat.toDigits 10 e.natAbs

/-- The text of a decimal. -/
def lay (style : NumberStyle) (d : Digits) : List Char :=
  let ds := Nat.toDigits 10 d.digits
  let e := d.exponent + (ds.length - 1 : Nat)
  if style.isPlain e then style.layPlain ds e else style.layScientific ds e

/-- **The text of a bit pattern.** -/
def write (style : NumberStyle) (format : BinaryFormat) (bits : Nat) : String :=
  match format.read bits with
  | .undefined => style.undefined
  | .infinite negative => if negative then style.minusInfinity else style.infinity
  | .zero negative => sign negative ++ String.ofList (style.lay ⟨0, 0⟩)
  | .finite negative f => sign negative ++ String.ofList (style.lay (f.shortest style.tieUp))
where
  /-- The sign of a number. -/
  sign (negative : Bool) : String := if negative then "-" else ""

/-- The text of a double. -/
def double (style : NumberStyle) (x : Float) : String := style.write .double x.toBits.toNat

/-- The text of a single. -/
def single (style : NumberStyle) (x : Float32) : String := style.write .single x.toBits.toNat

end NumberStyle

end Projector.Decimal
